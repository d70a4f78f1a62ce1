import SwapLedger.Json.Basic
import SwapLedger.TradeEvent

/-!
# Trade events in JSON
-/

namespace SwapLedger

namespace TradeEvent

/-- Writes an event. -/
def toJson (event : TradeEvent) : Json :=
  .object [
    ("mint", .string event.mintAddress), ("sol_amount", .ofNat event.solAmount.toNat),
    ("token_amount", .ofNat event.tokenAmount.toNat), ("is_buy", .bool event.isBuy),
    ("user", .string event.userAddress)]

end TradeEvent

end SwapLedger
