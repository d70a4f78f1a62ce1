import SwapLedger.Settings
import SwapLedger.Text.Blank

/-!
# Settings from the environment

Ten variables are read, in a fixed order, so that of several faults the first one is reported. The
addresses are required; numbers may be surrounded by blanks and are otherwise plain digits.
-/

namespace SwapLedger

/-- The variables that are set, with their values. -/
structure Environment where
  entries : List (String × String)

namespace Environment

variable (environment : Environment)

/-- The value of a variable. -/
def value? (name : String) : Option String :=
  (environment.entries.find? fun entry => entry.1 == name).map (·.2)

/-- The value of a variable that has to be set. -/
def required (name : String) : Except Failure String :=
  match environment.value? name with
  | some value => .ok value
  | none => .error (.configuration (name ++ ": environment variable not found"))

/-- The number below a bound that a variable holds, if it is set. -/
def number? (name : String) (bound : Nat) : Except Failure (Option Nat) :=
  match environment.value? name with
  | none => .ok none
  | some raw =>
    match Text.natural? (Text.trimmed raw.toList) with
    | some value =>
      if value < bound then .ok (some value) else .error (invalid raw)
    | none => .error (invalid raw)
where
  /-- The failure for a value that is no such number. -/
  invalid (raw : String) : Failure :=
    .configuration (name ++ " has invalid value '" ++ raw ++ "'")

/-- The addresses in a list separated by commas, without blanks around them and without the empty
ones. -/
def addresses (list : String) : List String :=
  (((Text.pieces ',' list.toList).map Text.trimmed).filter (· ≠ [])).map String.ofList

/-- The value a named choice stands for, whatever the case of its letters. -/
def choice {α : Type} (what : String) (ofLabel? : String → Option α) (value : String) :
    Except Failure α :=
  let label := Text.lowercase value
  match ofLabel? label with
  | some found => .ok found
  | none => .error (.configuration ("unknown " ++ what ++ " '" ++ label ++ "'"))

/-- The configuration that the variables describe. -/
def configuration : Except Failure Configuration := do
  let rpcUrls ← environment.required "RPC_URLS"
  let wsUrl ← environment.required "WS_URL"
  let databaseUrl ← environment.required "DATABASE_URL"
  let mut draft := { Draft.empty with
    rpcUrls := addresses rpcUrls, wsUrl := some wsUrl, databaseUrl := some databaseUrl }
  if let some value := environment.value? "COMMITMENT" then
    draft := draft.withCommitment (← choice "commitment level" Commitment.ofLabel? value)
  if let some value := environment.value? "QUEUE_BACKEND" then
    draft := draft.withQueueBackend (← choice "queue backend" QueueBackend.ofLabel? value)
  if let some name := environment.value? "QUEUE_NAME" then
    draft := draft.withQueueName name
  if let some workers ← environment.number? "BASELINE_WORKERS" UInt64.size then
    draft := draft.withBaselineWorkers (.ofNat workers)
  if let some prefetch ← environment.number? "BASELINE_PREFETCH" UInt16.size then
    draft := draft.withBaselinePrefetch (.ofNat prefetch)
  if let some seconds ← environment.number? "MONITOR_INTERVAL_SECS" UInt64.size then
    draft := draft.withMonitorInterval (.ofNat seconds)
  if let some filter := environment.value? "RUST_LOG" then
    draft := draft.withLogFilter filter
  draft.complete

end Environment

end SwapLedger
