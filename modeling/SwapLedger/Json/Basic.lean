import SwapLedger.Binary64

/-!
# JSON values

A JSON document as written: objects keep the order of their members and may repeat a name, and a
number remembers whether it was written as an integer. Which names an object may have, and what a
repeated name means, is decided by the reader of a particular record, not here.

A text may follow the grammar and yet hold what cannot be read: half of a surrogate pair, values
nested too deeply, numbers beyond the doubles. Such parts stand in the document as `unreadable` or
as infinite numbers; a reader may pass over them but not use them.
-/

namespace SwapLedger

/-- A JSON value. -/
inductive Json where
  /-- The literal `null`. -/
  | null
  /-- One of the literals `true` and `false`. -/
  | bool (value : Bool)
  /-- A number without fraction and exponent that fits a 64-bit word, unsigned or signed. -/
  | integer (value : Int)
  /-- Any other number; an infinite one is beyond the doubles. -/
  | real (value : Binary64)
  /-- A string, with its escapes resolved. -/
  | string (value : String)
  /-- A list of values. -/
  | array (items : List Json)
  /-- A list of named values. -/
  | object (members : List (String × Json))
  /-- A string or a name in it that is no text, or a value that is nested too deeply. -/
  | unreadable
  deriving Inhabited, BEq

namespace Json

/-- The value of the first member called `name`. -/
def member? (name : String) : Json → Option Json
  | .object members => (members.find? (·.1 == name)).map (·.2)
  | _ => none

/-- An unsigned integer. -/
def ofNat (value : Nat) : Json := .integer value

/-- An absent value is written `null`. -/
def ofOption {α : Type} (write : α → Json) : Option α → Json
  | none => .null
  | some value => write value

/-- A list, item by item. -/
def ofList {α : Type} (write : α → Json) (items : List α) : Json := .array (items.map write)

end Json

end SwapLedger
