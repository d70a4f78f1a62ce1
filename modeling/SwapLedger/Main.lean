import SwapLedger.CommandLine.Perform
import SwapLedger.Deployment
import SwapLedger.Unreachable

/-!
# The program

Reads the arguments, the variables and the environment file of the working directory, and does what
they amount to. Commands are performed against an outer world that is out of reach: a deployment that
has one brings its own answers.
-/

namespace SwapLedger

namespace Terminal

/-- The variables that the program heeds. -/
def variableNames : List String :=
  ["RPC_URLS", "WS_URL", "DATABASE_URL", "COMMITMENT", "QUEUE_BACKEND", "QUEUE_NAME",
    "BASELINE_WORKERS", "BASELINE_PREFETCH", "MONITOR_INTERVAL_SECS", "RUST_LOG",
    "SWAP_INDEXER_SILENT"]

/-- The variables that are set. -/
def setVariables : IO Environment := do
  let values ← variableNames.filterMapM fun name => do
    return (← IO.getEnv name).map fun value => (name, value)
  return ⟨values⟩

/-- The variables, together with those of the environment file if there is one. -/
def environment : IO Environment := do
  let set ← setVariables
  try return EnvironmentFile.load set (← IO.FS.readFile ".env")
  catch _ => return set

/-- Answers a request, writing log entries as lines if they are shown. -/
def answer (shows : LogEntry → Bool) : (request : Request Wire) → IO request.Answer
  | .report entry => if shows entry then IO.println entry.line else pure ()
  | .clock => IO.monoMsNow
  | .pause durationMs => IO.sleep (.ofNat durationMs)
  | .stopRequested => pure false
  | .draw => IO.monoNanosNow
  | .call call => pure (Unreachable.answer call)
  | .unlessStopped request => do return some (← answer shows request)

/-- Runs a program to its result. -/
def run {Result : Type} (shows : LogEntry → Bool) : Program Wire Result → IO Result
  | .done result => pure result
  | .ask request resume => do run shows (resume (← answer shows request))

/-- Does what a call amounts to, and answers the exit code. -/
def carryOut (environment : Environment) : Errand → IO UInt32
  | .tell text => do
    IO.print text
    return 0
  | .refuse hint => do
    IO.eprint hint
    return 2
  | .giveUp complaint => do
    IO.eprint complaint.text
    return 1
  | .perform configuration command => do
    let shows (entry : LogEntry) := (environment.shownEntries configuration [entry]).length == 1
    match ← run shows (configuration.deploy (command.perform configuration)) with
    | .ok () => return 0
    | .error complaint => do
      IO.eprint complaint.text
      return 1

end Terminal

end SwapLedger

/-- Does what the arguments ask for. -/
def main (arguments : List String) : IO UInt32 := do
  let environment ← SwapLedger.Terminal.environment
  SwapLedger.Terminal.carryOut environment
    (SwapLedger.Errand.ofArguments environment arguments)
