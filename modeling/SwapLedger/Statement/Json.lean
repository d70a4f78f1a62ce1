import SwapLedger.Binary64.Shortest
import SwapLedger.Decimal.Text
import SwapLedger.Json.Basic
import SwapLedger.Statement

/-!
# Statements in JSON

A statement is written as the list of its short name and its parameters. A row of swaps is one
parameter.
-/

namespace SwapLedger

namespace SwapRecord

/-- A row of swaps: its columns in order. -/
def rowJson (row : SwapRecord) : Json :=
  .array [.string row.id, .string row.wallet, .string row.source, .ofNat row.blockNumber.toNat,
    .integer row.timestamp.toInt, .string row.action.label, .string row.pair, .string row.token,
    .string row.amountIn.toPlainText, .string row.amountOut.toPlainText, .bool row.processed]

end SwapRecord

namespace Statement

/-- The parameters of a statement. -/
def parameters : Statement → List Json
  | .mark block => [.integer block]
  | .insertSwaps rows => rows.map SwapRecord.rowJson
  | .deleteSwaps id => [.string id]
  | .enqueueLookups addresses => addresses.map .string
  | .publish queue payload => [.string queue, .string payload]
  | .claim queue timeoutSecs =>
    [.string queue, .string (Binary64.ofNat timeoutSecs.toNat).plainText]
  | .remove id => [.integer id]
  | .release id => [.integer id]
  | .depth queue => [.string queue]
  | _ => []

variable (statement : Statement)

/-- The name of a statement and its parameters. -/
def toJson : Json := .array (.string statement.name :: statement.parameters)

/-- The same; of more parameters than the limit, if there is one, only the number is told. -/
def brief (limit : Option Nat) : Json :=
  let count := statement.parameters.length
  if limit.all (count ≤ ·) then statement.toJson
  else .array [.string statement.name, .object [("count", .ofNat count)]]

end Statement

end SwapLedger
