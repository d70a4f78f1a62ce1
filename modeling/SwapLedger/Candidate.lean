import SwapLedger.Protocol
import SwapLedger.Transfer

/-!
# Swap candidates

A candidate says that a wallet gave one amount and took another in one swap instruction. It has yet
to be judged: amounts may be zero, and the wallet or the pool may be unknown.
-/

namespace SwapLedger

/-- A swap that a matcher believes to have seen. -/
structure Candidate where
  protocol : Protocol
  wallet : Address
  /-- The pool that was traded with. -/
  pair : Address
  /-- What the wallet gave. -/
  tokenOut : Address
  amountOut : Decimal
  /-- What the wallet took. -/
  tokenIn : Address
  amountIn : Decimal
  deriving DecidableEq

namespace Candidate

/-- The candidate of the two transfers of a trade. -/
def ofLegs (protocol : Protocol) (wallet pair : Address) (given taken : Transfer) : Candidate :=
  ⟨protocol, wallet, pair, given.mint, given.amount, taken.mint, taken.amount⟩

/-- Whether something was given and something was taken. -/
def hasPositiveAmounts (candidate : Candidate) : Bool :=
  decide candidate.amountOut.IsPositive && decide candidate.amountIn.IsPositive

end Candidate

end SwapLedger
