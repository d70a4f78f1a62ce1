import SwapLedger.Binary64.Shortest
import SwapLedger.Json.Basic
import SwapLedger.Text.Hexadecimal

/-!
# Writing JSON

The compact form: no blanks, members in the order they are held, and only the characters escaped
that have to be, a control character by its short escape if it has one and by its code otherwise.
What is no value is written `null`.
-/

namespace SwapLedger

namespace Json

namespace Writer

/-- A character as it stands inside quotes. -/
def escape (character : Char) : List Char :=
  match character with
  | '"' => ['\\', '"']
  | '\\' => ['\\', '\\']
  | '\x08' => ['\\', 'b']
  | '\x0c' => ['\\', 'f']
  | '\n' => ['\\', 'n']
  | '\r' => ['\\', 'r']
  | '\t' => ['\\', 't']
  | _ =>
    if character.toNat < 0x20 then
      ['\\', 'u', '0', '0', Text.hexDigit (character.toNat / 16),
        Text.hexDigit (character.toNat % 16)]
    else [character]

/-- A string with its quotes. -/
def quoted (text : String) : List Char :=
  '"' :: text.toList.flatMap escape ++ ['"']

/-- An integer in decimal. -/
def integer (value : Int) : List Char :=
  if value < 0 then '-' :: Nat.toDigits 10 value.natAbs else Nat.toDigits 10 value.natAbs

/-- An integer with its sign, also if it is positive. -/
def signed (value : Int) : List Char := if value < 0 then integer value else '+' :: integer value

/-- A number that is not an integer literal, in its shortest digits. Up to sixteen digits before the
point, or up to four zeros behind it, are written out, with at least one decimal; beyond that the
first digit stands alone and an exponent follows. -/
def real : Binary64 → List Char
  | .finite negative m e =>
    let sign := if negative then ['-'] else []
    let (digits, exponent) := Binary64.shortest .toEven m e
    let written := Nat.toDigits 10 digits
    let point : Int := written.length + exponent
    if digits = 0 then sign ++ ['0', '.', '0']
    else if 0 ≤ exponent ∧ point ≤ 16 then
      sign ++ written ++ List.replicate exponent.toNat '0' ++ ['.', '0']
    else if 0 < point ∧ point ≤ 16 then
      sign ++ written.take point.toNat ++ '.' :: written.drop point.toNat
    else if -5 < point ∧ point ≤ 0 then
      sign ++ ['0', '.'] ++ List.replicate (-point).toNat '0' ++ written
    else
      let fraction := if written.length = 1 then [] else '.' :: written.drop 1
      sign ++ written.take 1 ++ fraction ++ 'e' :: signed (point - 1)
  | _ => ['n', 'u', 'l', 'l']

mutual

/-- A value in compact form. -/
def write : Json → List Char
  | .null | .unreadable => ['n', 'u', 'l', 'l']
  | .bool true => ['t', 'r', 'u', 'e']
  | .bool false => ['f', 'a', 'l', 's', 'e']
  | .integer value => integer value
  | .real value => real value
  | .string text => quoted text
  | .array items => '[' :: writeItems items ++ [']']
  | .object members => '\x7b' :: writeMembers members ++ ['\x7d']

/-- The items of a list, separated by commas. -/
def writeItems : List Json → List Char
  | [] => []
  | [item] => write item
  | item :: rest => write item ++ ',' :: writeItems rest

/-- The members of an object, separated by commas. -/
def writeMembers : List (String × Json) → List Char
  | [] => []
  | [(name, value)] => quoted name ++ ':' :: write value
  | (name, value) :: rest => quoted name ++ ':' :: write value ++ ',' :: writeMembers rest

end

end Writer

/-- The compact text of a value. -/
def compact (value : Json) : String := String.ofList (Writer.write value)

end Json

end SwapLedger
