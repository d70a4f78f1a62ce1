import SwapLedger.Json.Reader
import SwapLedger.Json.Writer
import SwapLedger.Transaction.Json

/-!
# Work items

One unit of work: some transactions of one block, with the number and time of the block. Work items
travel through the queue as JSON texts.
-/

namespace SwapLedger

/-- Transactions to be looked into. -/
structure WorkItem where
  blockNumber : Slot
  blockTime : Timestamp
  transactions : List Transaction
  deriving DecidableEq

namespace WorkItem

/-- The fields of a work item, in order. -/
def fieldNames : List String := ["block_number", "block_time", "transactions"]

/-- Reads a work item. -/
def ofJson? (json : Json) : Option WorkItem := do
  let fields ← json.fields? fieldNames
  return ⟨← fields.required "block_number" Json.u64?, ← fields.required "block_time" Json.i64?,
    ← fields.required "transactions" (Json.list? Transaction.ofJson?)⟩

/-- Writes a work item. -/
def toJson (item : WorkItem) : Json :=
  .object [
    ("block_number", .ofNat item.blockNumber.toNat),
    ("block_time", .integer item.blockTime.toInt),
    ("transactions", .ofList Transaction.toJson item.transactions)]

/-- The payload under which the item is queued. -/
def toPayload (item : WorkItem) : String := item.toJson.compact

/-- The item of a payload. -/
def ofPayload? (payload : String) : Option WorkItem := (Json.parse? payload).bind ofJson?

/-- The signatures of the transactions. -/
def signatures (item : WorkItem) : List String := item.transactions.map (·.signature)

end WorkItem

end SwapLedger
