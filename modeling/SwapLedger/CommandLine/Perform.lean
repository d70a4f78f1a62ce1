import SwapLedger.CommandLine
import SwapLedger.EnvironmentFile
import SwapLedger.Indexer
import SwapLedger.Log.Filter

/-!
# Performing commands

What a call of the program amounts to: a text to show, a refusal, or a command to perform under the
configuration that the environment describes. A failure is told together with what lies behind it.
-/

namespace SwapLedger

/-- A failure, and what was being done when it came up. -/
structure Complaint where
  occasion : Option String
  failure : Failure

namespace Complaint

/-- A text whose lines but the first are indented. -/
def indented (indent text : String) : String :=
  ("\n" ++ indent).intercalate ((Text.pieces '\n' text.toList).map String.ofList)

/-- The causes, numbered if there are several. -/
def causeLines : List String → List String
  | [] => []
  | [cause] => ["    " ++ indented "    " cause]
  | causes => causes.zipIdx.map fun (cause, number) =>
    let digits := toString number
    String.ofList (List.replicate (5 - digits.length) ' ') ++ digits ++ ": " ++
      indented "       " cause

/-- A failure in full: what went wrong on the outside, and the causes from the nearest to the
farthest. -/
def text (complaint : Complaint) : String :=
  let failure := complaint.failure.message :: complaint.failure.causes
  match complaint.occasion.toList ++ failure with
  | [] => ""
  | [outermost] => "Error: " ++ outermost ++ "\n"
  | outermost :: causes =>
    "Error: " ++ outermost ++ "\n\nCaused by:\n" ++ "\n".intercalate (causeLines causes) ++ "\n"

end Complaint

namespace Command

variable (configuration : Configuration)

/-- An entry about a command that has been performed. -/
def entry (message : String) (fields : List (String × LogValue)) : LogEntry :=
  .plain .info .commandLine message fields

/-- Performs a command with an instance that has been prepared. -/
def program : Command → Program Services (Except Failure Unit)
  | .run => Indexer.start configuration
  | .backfill first last =>
    (Indexer.backfill configuration first last).onSuccess fun report => do
      .report (entry "Backfill finished" report.logFields)
      return .ok ()
  | .reprocess signature =>
    (Indexer.reprocess configuration signature).onSuccess fun swaps => do
      .report (entry "Reprocess finished"
        [("signature", .shown signature), ("swaps", .number swaps.length)])
      return .ok ()

/-- Prepares an instance and performs a command. -/
def perform (command : Command) : Program Services (Except Complaint Unit) := do
  match ← Indexer.prepare with
  | .error failure => return .error ⟨some "initialising indexer", failure⟩
  | .ok () => return (← command.program configuration).mapError fun failure => ⟨none, failure⟩

end Command

/-- What a call of the program amounts to. -/
inductive Errand where
  /-- Show a text. -/
  | tell (text : String)
  /-- Refuse arguments that make no sense, with a hint. -/
  | refuse (hint : String)
  /-- Give up before anything is done. -/
  | giveUp (complaint : Complaint)
  | perform (configuration : Configuration) (command : Command)

namespace Errand

/-- The line that tells the version. -/
def versionText : String := "swap-indexer 0.1.0\n"

/-- How the program is called. -/
def usageText : String :=
  "Usage: swap-indexer [run | backfill <FROM> [TO] | reprocess <SIGNATURE>]\n"

/-- What arguments amount to in an environment. -/
def ofArguments (environment : Environment) (arguments : List String) : Errand :=
  match CommandLine.parse arguments with
  | .help => .tell usageText
  | .version => .tell versionText
  | .misuse => .refuse usageText
  | .perform command =>
    match environment.configuration with
    | .error failure => .giveUp ⟨some "loading configuration", failure⟩
    | .ok configuration => .perform configuration command

end Errand

namespace Environment

variable (environment : Environment)

/-- Whether the log is silenced. -/
def silencesLog : Bool := (environment.value? "SWAP_INDEXER_SILENT").isSome

/-- The entries that are shown under a configuration. -/
def shownEntries (configuration : Configuration) (entries : List LogEntry) : List LogEntry :=
  let filter := LogFilter.parse configuration.telemetry.logFilter
  entries.filter fun entry =>
    filter.shows entry && ! (environment.silencesLog && entry.silenceable)

end Environment

end SwapLedger
