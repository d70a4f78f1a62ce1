import SwapLedger.Decimal.Text
import SwapLedger.Json.Shape
import SwapLedger.SwapRecord

/-!
# Transfers and swaps as JSON

Amounts are written as text and read from text or from numbers, a number with a fraction or an
exponent standing for the exact value of the double that it is read as.
-/

namespace SwapLedger

namespace Decimal

/-- Reads an amount. -/
def ofJson? : Json → Option Decimal
  | .string text => ofText? text
  | .integer value => some (ofInt value)
  | json => json.binary64?.bind ofBinary64?

/-- Writes an amount. -/
def toJson (amount : Decimal) : Json := .string amount.toText

end Decimal

namespace Position

/-- The fields of a position, in order. -/
def fieldNames : List String := ["outer", "inner"]

/-- Reads a position. -/
def ofJson? (json : Json) : Option Position := do
  let fields ← json.fields? fieldNames
  let outer ← fields.required "outer" Json.u64?
  let inner ← fields.optional "inner" Json.u64?
  return ⟨outer.toNat, inner.map (·.toNat)⟩

/-- Writes a position. -/
def toJson (position : Position) : Json :=
  .object [("outer", .ofNat position.outer), ("inner", .ofOption .ofNat position.inner)]

end Position

namespace Transfer

/-- The fields of a transfer, in order. -/
def fieldNames : List String :=
  ["position", "source", "destination", "authority", "mint", "amount", "kind"]

/-- Reads a transfer. -/
def ofJson? (json : Json) : Option Transfer := do
  let fields ← json.fields? fieldNames
  return ⟨← fields.required "position" Position.ofJson?, ← fields.required "source" Json.string?,
    ← fields.required "destination" Json.string?, ← fields.required "authority" Json.string?,
    ← fields.required "mint" Json.string?, ← fields.required "amount" Decimal.ofJson?,
    ← fields.required "kind" (Json.choice? (TransferKind.all.map fun kind => (kind.label, kind)))⟩

/-- Writes a transfer. -/
def toJson (transfer : Transfer) : Json :=
  .object [
    ("position", transfer.position.toJson), ("source", .string transfer.source),
    ("destination", .string transfer.destination), ("authority", .string transfer.authority),
    ("mint", .string transfer.mint), ("amount", transfer.amount.toJson),
    ("kind", .string transfer.kind.label)]

end Transfer

namespace TradeAction

/-- Reads a direction. -/
def ofJson? : Json → Option TradeAction := Json.choice? [("BUY", .buy), ("SELL", .sell)]

end TradeAction

namespace SwapRecord

/-- The fields of a swap, in order. -/
def fieldNames : List String :=
  ["id", "wallet", "source", "block_number", "timestamp", "action", "pair", "token", "amount_in",
    "amount_out", "processed"]

/-- Reads a swap. -/
def ofJson? (json : Json) : Option SwapRecord := do
  let fields ← json.fields? fieldNames
  return ⟨← fields.required "id" Json.string?, ← fields.required "wallet" Json.string?,
    ← fields.required "source" Json.string?, ← fields.required "block_number" Json.u64?,
    ← fields.required "timestamp" Json.i64?, ← fields.required "action" TradeAction.ofJson?,
    ← fields.required "pair" Json.string?, ← fields.required "token" Json.string?,
    ← fields.required "amount_in" Decimal.ofJson?, ← fields.required "amount_out" Decimal.ofJson?,
    ← fields.required "processed" Json.bool?⟩

/-- Writes a swap. -/
def toJson (swap : SwapRecord) : Json :=
  .object [
    ("id", .string swap.id), ("wallet", .string swap.wallet), ("source", .string swap.source),
    ("block_number", .ofNat swap.blockNumber.toNat), ("timestamp", .integer swap.timestamp.toInt),
    ("action", .string swap.action.label), ("pair", .string swap.pair), ("token", .string swap.token),
    ("amount_in", swap.amountIn.toJson), ("amount_out", swap.amountOut.toJson),
    ("processed", .bool swap.processed)]

end SwapRecord

namespace Protocol

/-- Reads the name of an exchange. -/
def ofJson? : Json → Option Protocol :=
  Json.choice? (all.map fun protocol => (protocol.jsonName, protocol))

/-- Writes the name of an exchange. -/
def toJson (protocol : Protocol) : Json := .string protocol.jsonName

end Protocol

end SwapLedger
