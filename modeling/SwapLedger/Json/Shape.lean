import SwapLedger.Json.Basic
import SwapLedger.Binary64

/-!
# Shapes of JSON values

Readers for the values that records are made of. A record is an object whose known names occur at
most once, other names being ignored, or the list of its fields in order. An enumeration is a name,
or an object with that name as its only member.
-/

namespace SwapLedger

namespace Json

/-- The fields of a record, found by name. -/
structure Fields where
  /-- Whether the record was written as a list of its fields. -/
  positional : Bool
  /-- The values that are present. -/
  values : List (String × Json)

/-- The fields called `names` of a record. -/
def fields? (names : List String) : Json → Option Fields
  | .object members =>
    let known := members.filter fun member => names.contains member.1
    if (known.map (·.1)).Nodup then some ⟨false, known⟩ else none
  | .array items =>
    if items.length ≤ names.length then some ⟨true, names.zip items⟩ else none
  | _ => none

namespace Fields

variable {α : Type} (fields : Fields)

/-- The value of a field, if it is present. -/
def get? (name : String) : Option Json :=
  (fields.values.find? fun member => member.1 == name).map (·.2)

/-- A field that has to be present. -/
def required (name : String) (read : Json → Option α) : Option α := do
  read (← fields.get? name)

/-- A field that may be `null`; in an object it may also be absent. -/
def optional (name : String) (read : Json → Option α) : Option (Option α) :=
  match fields.get? name with
  | none => if fields.positional then none else some none
  | some .null => some none
  | some value => (read value).map some

/-- A field that has a value of its own when it is absent. -/
def withDefault (name : String) (default : α) (read : Json → Option α) : Option α :=
  match fields.get? name with
  | none => some default
  | some value => read value

/-- A field that may be `null` or absent, in an object and in a list of fields alike. -/
def optionalWithDefault (name : String) (read : Json → Option α) : Option (Option α) :=
  match fields.get? name with
  | none => some none
  | some .null => some none
  | some value => (read value).map some

end Fields

/-- An integer literal between two bounds. -/
def intBetween? (least greatest : Int) : Json → Option Int
  | .integer value => if least ≤ value ∧ value ≤ greatest then some value else none
  | _ => none

/-- An unsigned 8-bit integer. -/
def u8? (json : Json) : Option UInt8 := (json.intBetween? 0 255).map fun value => .ofNat value.toNat

/-- An unsigned 16-bit integer. -/
def u16? (json : Json) : Option UInt16 :=
  (json.intBetween? 0 65535).map fun value => .ofNat value.toNat

/-- An unsigned 32-bit integer. -/
def u32? (json : Json) : Option UInt32 :=
  (json.intBetween? 0 4294967295).map fun value => .ofNat value.toNat

/-- An unsigned 64-bit integer. -/
def u64? (json : Json) : Option UInt64 :=
  (json.intBetween? 0 18446744073709551615).map fun value => .ofNat value.toNat

/-- A signed 64-bit integer. -/
def i64? (json : Json) : Option Int64 :=
  (json.intBetween? (-9223372036854775808) 9223372036854775807).map fun value => .ofInt value

/-- A number as a double; a number beyond the finite doubles is refused. -/
def binary64? : Json → Option Binary64
  | .integer value => some (.ofInt value)
  | .real value => if value.isFinite then some value else none
  | _ => none

/-- A literal `true` or `false`. -/
def bool? : Json → Option Bool
  | .bool value => some value
  | _ => none

/-- A string. -/
def string? : Json → Option String
  | .string value => some value
  | _ => none

/-- A list of values of one shape. -/
def list? {α : Type} (read : Json → Option α) : Json → Option (List α)
  | .array items => items.mapM read
  | _ => none

/-- The name of a case of an enumeration, and what it carries. -/
def case? : Json → Option (String × Option Json)
  | .string name => some (name, none)
  | .object [(name, content)] => some (name, some content)
  | _ => none

/-- Where a value is read from. What may stand in the place of nothing hangs on it. -/
inductive Source where
  /-- A text. -/
  | text
  /-- A value that was read before. -/
  | value
  /-- Members that were picked out of a larger object. -/
  | picked
  deriving DecidableEq

/-- Whether a value stands for nothing. -/
def Source.isNothing (source : Source) : Json → Bool
  | .null => true
  | .object [] => source == .picked
  | _ => false

/-- The name of a case that carries nothing. -/
def caseNameFrom? (source : Source) (json : Json) : Option String := do
  match ← json.case? with
  | (name, none) => some name
  | (name, some content) => if source.isNothing content then some name else none

/-- A case of an enumeration that is known by its name alone. -/
def choiceFrom? {α : Type} (source : Source) (choices : List (String × α)) (json : Json) :
    Option α := do
  let name ← json.caseNameFrom? source
  (choices.find? (·.1 == name)).map (·.2)

/-- A member that has to be there. -/
def field {α : Type} (json : Json) (name : String) (read : Json → Option α) : Option α :=
  (json.member? name).bind read

/-- A member with a value to use when it is missing or null. -/
def fieldOr {α : Type} (json : Json) (name : String) (default : α) (read : Json → Option α) :
    Option α :=
  match json.member? name with
  | none | some .null => some default
  | some value => read value

/-- A member that may be missing or null. -/
def optField {α : Type} (json : Json) (name : String) (read : Json → Option α) :
    Option (Option α) :=
  json.fieldOr name none fun value => (read value).map some

/-- A case of an enumeration that is known by its name alone, in a text. -/
def choice? {α : Type} (choices : List (String × α)) (json : Json) : Option α :=
  json.choiceFrom? .text choices

end Json

end SwapLedger
