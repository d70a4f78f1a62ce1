import SwapLedger.Json.Writer
import SwapLedger.Settings

/-!
# The block stream

What is said on the connection over which the node streams blocks.
-/

namespace SwapLedger

namespace BlockStream

/-- The request that subscribes to all blocks of a commitment. -/
def subscription (commitment : Commitment) : Json :=
  .object [
    ("id", .ofNat 1), ("jsonrpc", .string "2.0"), ("method", .string "blockSubscribe"),
    ("params", .array [.string "all", .object [
      ("commitment", .string commitment.label), ("encoding", .string "json"),
      ("maxSupportedTransactionVersion", .ofNat 0), ("showRewards", .bool false),
      ("transactionDetails", .string "full")]])]

end BlockStream

end SwapLedger
