import SwapLedger.Candidate

/-!
# Swap records

A swap as it is stored: who traded which token, on which exchange and pool, and in which direction.
The direction is seen from the token that is not a quote asset.
-/

namespace SwapLedger

/-- The direction of a trade. -/
inductive TradeAction where
  | buy
  | sell
  deriving DecidableEq

namespace TradeAction

/-- The word that stands for the direction in records. -/
def label : TradeAction → String
  | .buy => "BUY"
  | .sell => "SELL"

end TradeAction

/-- A swap as it is stored. -/
structure SwapRecord where
  /-- The signature of the transaction. -/
  id : String
  wallet : Address
  /-- The label of the exchange. -/
  source : String
  blockNumber : Slot
  timestamp : Timestamp
  action : TradeAction
  pair : Address
  /-- The token that was traded for a quote asset. -/
  token : Address
  amountIn : Decimal
  amountOut : Decimal
  /-- Whether a later stage has dealt with it. -/
  processed : Bool
  deriving DecidableEq

/-- The transaction and block that a candidate was found in. -/
structure Occasion where
  signature : String
  blockTime : Timestamp
  blockNumber : Slot
  deriving DecidableEq

namespace Candidate

variable (candidate : Candidate)

/-- The direction of the trade and the traded token, if just one side is a quote asset. -/
def direction? : Option (TradeAction × Address) :=
  match Address.isQuoteAsset candidate.tokenOut, Address.isQuoteAsset candidate.tokenIn with
  | true, false => some (.buy, candidate.tokenIn)
  | false, true => some (.sell, candidate.tokenOut)
  | _, _ => none

/-- The record of a candidate that is a swap: wallet and pool are known, both amounts are positive,
and just one side is a quote asset. -/
def record? (occasion : Occasion) : Option SwapRecord :=
  if candidate.wallet = "" ∨ candidate.pair = "" ∨ candidate.hasPositiveAmounts = false then none
  else
    candidate.direction?.map fun (action, token) =>
      ⟨occasion.signature, candidate.wallet, candidate.protocol.label, occasion.blockNumber,
        occasion.blockTime, action, candidate.pair, token, candidate.amountIn, candidate.amountOut,
        false⟩

end Candidate

end SwapLedger
