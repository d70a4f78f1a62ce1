import SwapLedger.Binary64
import SwapLedger.Json.Shape

/-!
# Retry policies

How often to try, and how long to wait in between. The wait before each retry starts at an initial
delay and stays the same, grows with the number of the attempt, or is multiplied every time; it
never exceeds a greatest delay. Waits are computed as doubles and cut off to milliseconds.
-/

namespace SwapLedger

/-- How waits grow. -/
inductive Growth where
  | fixed
  | linear
  | exponential (multiplier : Binary64)
  deriving DecidableEq

/-- How often to try, and how long to wait in between. -/
structure RetryPolicy where
  /-- How many tries may follow the first. -/
  maxRetries : UInt32
  initialDelayMs : UInt64
  growth : Growth
  maxDelayMs : UInt64
  /-- Whether waits vary by up to a quarter. -/
  jitter : Bool
  deriving DecidableEq

namespace RetryPolicy

/-- For calls of a node. -/
def node : RetryPolicy := ⟨3, 100, .linear, 1000, false⟩

/-- For connecting to the queue again. -/
def reconnect : RetryPolicy := ⟨4, 1000, .exponential (.ofNat 2), 16000, false⟩

/-- For storing swaps. -/
def insert : RetryPolicy := ⟨3, 2000, .fixed, 2000, false⟩

variable (policy : RetryPolicy)

/-- How many tries there are in all. The number is taken without a bound: it is a 32-bit word
unless the retries are already the greatest word, and that one policy, whose count a machine word
cannot hold, counts here as trying once more than its retries like every other. -/
def maxAttempts : Nat := policy.maxRetries.toNat + 1

/-- An exponent as a signed 32-bit word. -/
def exponent (attempt : Nat) : Int := ((attempt - 1 : Nat) : Int).bmod UInt32.size

/-- The wait after an attempt before the greatest delay is minded. Attempts count from one. -/
def uncapped (attempt : Nat) : Binary64 :=
  let initial := Binary64.ofNat policy.initialDelayMs.toNat
  let attempt := max attempt 1
  match policy.growth with
  | .fixed => initial
  | .linear => initial.mul (.ofNat attempt)
  | .exponential multiplier => initial.mul (multiplier.pow (exponent attempt))

/-- The wait after an attempt, before it varies. -/
def capped (attempt : Nat) : Binary64 :=
  (policy.uncapped attempt).min (.ofNat policy.maxDelayMs.toNat)

/-- By how much a wait varies: three quarters, and half of a phase in millionths on top. The
quotient, the half and the sum are each rounded. -/
def jitterFactor (phase : Nat) : Binary64 :=
  let quarters := Binary64.ofQuotient false 3 4
  let half := Binary64.ofQuotient false 1 2
  quarters.add (((Binary64.ofNat (phase % 1000000)).div (.ofNat 1000000)).mul half)

/-- The wait after an attempt in milliseconds. The phase counts only if waits vary. -/
def delayMs (attempt phase : Nat) : UInt64 :=
  let delay := policy.capped attempt
  (if policy.jitter then delay.mul (jitterFactor phase) else delay).toUInt64

/-- The fields of a policy, in order. -/
def fieldNames : List String :=
  ["max_retries", "initial_backoff_ms", "strategy", "max_backoff_ms", "jitter"]

end RetryPolicy

namespace Growth

/-- Reads how waits grow. -/
def ofJson? (json : Json) : Option Growth := do
  match ← json.case? with
  | ("Fixed", none) | ("Fixed", some .null) => return .fixed
  | ("Linear", none) | ("Linear", some .null) => return .linear
  | ("Exponential", some content) =>
    let fields ← content.fields? ["multiplier"]
    return .exponential (← fields.required "multiplier" Json.binary64?)
  | _ => none

end Growth

namespace RetryPolicy

/-- Reads a policy. -/
def ofJson? (json : Json) : Option RetryPolicy := do
  let fields ← json.fields? fieldNames
  return ⟨← fields.required "max_retries" Json.u32?,
    ← fields.required "initial_backoff_ms" Json.u64?,
    ← fields.required "strategy" Growth.ofJson?,
    ← fields.required "max_backoff_ms" Json.u64?,
    ← fields.required "jitter" Json.bool?⟩

end RetryPolicy

end SwapLedger
