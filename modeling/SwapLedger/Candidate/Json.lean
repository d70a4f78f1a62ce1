import SwapLedger.Candidate
import SwapLedger.SwapRecord.Json

/-!
# Candidates in JSON
-/

namespace SwapLedger

namespace Candidate

/-- Writes a candidate, and whether its amounts are positive. -/
def toJson (candidate : Candidate) : Json :=
  .object [
    ("protocol", .string candidate.protocol.label), ("wallet", .string candidate.wallet),
    ("pair", .string candidate.pair), ("token_out", .string candidate.tokenOut),
    ("amount_out", candidate.amountOut.toJson), ("token_in", .string candidate.tokenIn),
    ("amount_in", candidate.amountIn.toJson), ("positive", .bool candidate.hasPositiveAmounts)]

end Candidate

namespace Gate

/-- The fields of a gate: how many accounts an instruction may have, and the first of them. -/
def jsonFields (gate : Gate) : List (String × Json) :=
  [("valid_counts", .ofList .ofNat gate.counts),
    ("first_account", .ofOption .string gate.firstAccount)]

end Gate

end SwapLedger
