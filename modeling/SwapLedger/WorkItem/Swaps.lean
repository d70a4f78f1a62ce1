import SwapLedger.Detection.Log
import SwapLedger.WorkItem

/-!
# The swaps of a work item
-/

namespace SwapLedger

namespace WorkItem

variable (item : WorkItem) (registry : Registry)

/-- The swaps of all transactions of an item, in order. -/
def swaps : List SwapRecord :=
  item.transactions.flatMap fun transaction =>
    transaction.swaps registry item.blockTime item.blockNumber

/-- The entries that looking for them leaves in the log. -/
def detectionLog : List LogEntry :=
  item.transactions.flatMap fun transaction =>
    transaction.detectionLog registry item.blockNumber
      (transaction.swaps registry item.blockTime item.blockNumber)

end WorkItem

end SwapLedger
