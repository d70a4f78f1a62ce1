import SwapLedger.Json.Shape
import SwapLedger.Json.Whole
import SwapLedger.Json.Writer
import SwapLedger.Statement.Json
import SwapLedger.Tables

/-!
# Tables in JSON

All tables at a glance, each in an order that does not depend on when its rows came in. A row of the
work queue shows the block and the first signature of its payload.
-/

namespace SwapLedger

namespace SwapRecord

/-- What rows of swaps are ordered by: the texts of some columns. -/
def orderKey (row : SwapRecord) : List String :=
  [row.id, row.pair, row.action.label, row.amountIn.normalize.toPlainText,
    row.amountOut.normalize.toPlainText, toString row.blockNumber.toNat,
    toString row.timestamp.toInt]

end SwapRecord

namespace WorkRow

/-- A row at a glance: the queue, the block, its first signature, how often the row has been claimed
and whether it is claimed. -/
def toJson (row : WorkRow) : Json :=
  let payload := (Json.parseWhole? row.payload).getD .null
  let first := match payload.member? "transactions" with
    | some (.array (first :: _)) => first.member? "signature"
    | _ => none
  .array [.string row.queue, (payload.member? "block_number").getD .null, first.getD .null,
    .ofNat row.deliveries, .bool row.claimedUntil.isSome]

end WorkRow

namespace Tables

variable (tables : Tables)

/-- Whether texts stand before or with others, compared one after the other. -/
def inOrder (left right : List String) : Bool :=
  ! right.lex left fun first second => decide (first < second)

/-- The rows of swaps in their order. -/
def swapRows : List SwapRecord :=
  tables.swaps.mergeSort fun left right => inOrder left.orderKey right.orderKey

/-- JSON values in the order of their texts. -/
def byText (values : List Json) : List Json :=
  let keyed := values.map fun value => (value.compact, value)
  (keyed.mergeSort fun left right => decide (left.1 ≤ right.1)).map (·.2)

/-- All tables. Of more swaps than the limit, if there is one, only the number is told. -/
def toJson (limit : Option Nat) : Json :=
  let swaps :=
    if limit.all (tables.swaps.length ≤ ·) then .ofList SwapRecord.rowJson tables.swapRows
    else .ofNat tables.swaps.length
  .object [("processed_blocks", .ofList .integer tables.processed), ("swap_logs", swaps),
    ("token_metadata_queue", .ofList .string tables.lookups),
    ("swap_work_queue", .array (byText (tables.work.map WorkRow.toJson)))]

end Tables

end SwapLedger
