import SwapLedger.Failure
import SwapLedger.Program
import SwapLedger.RetryPolicy

/-!
# Trying again

An attempt that fails for a reason that may pass is repeated, after a wait, as often as the policy
allows. Any other outcome is final.
-/

namespace SwapLedger

namespace LogEntry

/-- An attempt failed and will be repeated. -/
def retrying (operation : String) (attempt greatest delayMs : Nat) (failure : Failure) : LogEntry :=
  .plain .warn .retry "Transient failure, retrying"
    [("operation", .quoted operation), ("attempt", .number attempt), ("max", .number greatest),
      ("delay_ms", .number delayMs), ("error", .shown failure.message)]

end LogEntry

namespace RetryPolicy

variable {interface : Interface} {Result : Type}

/-- Tries once, and then as often as there are retries left. Attempts count from one. -/
def retryingFrom (policy : RetryPolicy) (operation : String)
    (attempt : Program interface (Except Failure Result)) :
    (retriesLeft : Nat) → (number : Nat) → Program interface (Except Failure Result)
  | retriesLeft, number => do
    match ← attempt with
    | .ok result => return .ok result
    | .error failure =>
      if failure.isTransient = false then return .error failure
      else
        match retriesLeft with
        | 0 => return .error (.retryExhausted number failure.message)
        | retriesLeft + 1 =>
          let delay := (policy.delayMs number (← .request .draw)).toNat
          .report (.retrying operation number policy.maxAttempts delay failure)
          .pause delay
          retryingFrom policy operation attempt retriesLeft (number + 1)

/-- Tries until an attempt has a final outcome or the policy allows no more. -/
def retrying (policy : RetryPolicy) (operation : String)
    (attempt : Program interface (Except Failure Result)) :
    Program interface (Except Failure Result) :=
  policy.retryingFrom operation attempt policy.maxRetries.toNat 1

end RetryPolicy

end SwapLedger
