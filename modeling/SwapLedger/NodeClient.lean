import SwapLedger.RetryPolicy.Retrying
import SwapLedger.Services
import SwapLedger.Signature

/-!
# Calls of nodes that are repeated

Calls of a node are repeated by a policy. When the policy allows no more, the node counts as
unavailable.
-/

namespace SwapLedger

namespace NodeClient

variable {interface : Interface} {Result : Type} (policy : RetryPolicy)

/-- The failure of a call that has been repeated. -/
def failure : Failure → Failure
  | .retryExhausted attempts lastError => .nodeUnavailable attempts lastError
  | other => other

/-- Repeats an attempt by the policy. -/
def repeating (operation : String) (attempt : Program interface (Except Failure Result)) :
    Program interface (Except Failure Result) := do
  return (← policy.retrying operation attempt).mapError failure

/-- Makes a call that is repeated by the policy, given how to make it once. -/
def call (once : (call : NodeCall) → Program interface call.Answer) :
    (call : NodeCall) → Program interface call.Answer
  | .block slot => repeating policy "get_block" (once (.block slot))
  | .tip => repeating policy "get_slot" (once .tip)
  | .transaction signature => repeating policy "get_transaction" (once (.transaction signature))

/-- Fetches the transaction of a signature, whose text is checked first. -/
def transaction (make : (call : NodeCall) → Program interface call.Answer) (signature : String) :
    Program interface (Except Failure ConfirmedTransaction) :=
  match Signature.check signature with
  | .error failure => return .error failure
  | .ok () => make (.transaction signature)

end NodeClient

end SwapLedger
