import SwapLedger.Binary64.Literal
import SwapLedger.Json.Basic
import SwapLedger.Text.Hexadecimal

/-!
# Reading JSON

A strict reader of RFC 8259 texts: no byte order mark, no leading zeros, no trailing commas, no raw
control characters in strings, and nothing but blanks after the value. A string that leaves half of
a surrogate pair, and a list or an object inside too many others, follow the grammar but become
unreadable. The reader follows the grammar; its fuel is the length of the text, which every nested
value uses up by at least one character.
-/

namespace SwapLedger

namespace Json

namespace Reader

/-- The four characters that may stand between tokens. -/
def isBlank (character : Char) : Bool :=
  character == ' ' || character == '\t' || character == '\n' || character == '\r'

/-- The text after its leading blanks. -/
def skipBlanks (text : List Char) : List Char := text.dropWhile isBlank

/-- The 16-bit unit of four hexadecimal digits. -/
def unit? (a b c d : Char) : Option Nat := do
  let a ← Text.hexDigit? a
  let b ← Text.hexDigit? b
  let c ← Text.hexDigit? c
  let d ← Text.hexDigit? d
  return ((a * 16 + b) * 16 + c) * 16 + d

/-- The character of a one-letter escape. -/
def shortEscape? : Char → Option Char
  | '"' => some '"'
  | '\\' => some '\\'
  | '/' => some '/'
  | 'b' => some '\x08'
  | 'f' => some '\x0c'
  | 'n' => some '\n'
  | 'r' => some '\r'
  | 't' => some '\t'
  | _ => none

/-- A string that has been read in part. -/
structure Spelled where
  /-- The first half of a surrogate pair whose second half should come next. -/
  half : Option Nat
  /-- The characters so far, last first, or nothing once half of a pair has stood alone. -/
  characters : Option (List Char)

namespace Spelled

/-- Nothing yet. -/
def empty : Spelled := ⟨none, some []⟩

variable (spelled : Spelled)

/-- The string after a character that stands for itself. -/
def push (character : Char) : Spelled :=
  ⟨none, if spelled.half.isSome then none else spelled.characters.map (character :: ·)⟩

/-- The string after an escaped 16-bit unit. -/
def pushUnit (unit : Nat) : Spelled :=
  match spelled.half with
  | some high =>
    if 0xDC00 ≤ unit ∧ unit ≤ 0xDFFF then
      let character := Char.ofNat (0x10000 + (high - 0xD800) * 0x400 + (unit - 0xDC00))
      ⟨none, spelled.characters.map (character :: ·)⟩
    else ⟨none, none⟩
  | none =>
    if 0xD800 ≤ unit ∧ unit ≤ 0xDBFF then { spelled with half := some unit }
    else if 0xDC00 ≤ unit ∧ unit ≤ 0xDFFF then ⟨none, none⟩
    else spelled.push (Char.ofNat unit)

/-- The text of the string, if it is one. -/
def text? : Option String :=
  if spelled.half.isSome then none
  else spelled.characters.map fun characters => String.ofList characters.reverse

end Spelled

/-- Reads to the closing quote. -/
def stringBody? (spelled : Spelled) : List Char → Option (Option String × List Char)
  | '"' :: rest => some (spelled.text?, rest)
  | '\\' :: 'u' :: a :: b :: c :: d :: rest =>
    match unit? a b c d with
    | none => none
    | some unit => stringBody? (spelled.pushUnit unit) rest
  | '\\' :: escape :: rest =>
    match shortEscape? escape with
    | none => none
    | some character => stringBody? (spelled.push character) rest
  | character :: rest =>
    if character.toNat < 0x20 ∨ character = '\\' then none
    else stringBody? (spelled.push character) rest
  | [] => none

/-- The natural number that decimal digits write. -/
def natOfDigits (digits : List Char) : Nat :=
  digits.foldl (fun total digit => total * 10 + (digit.toNat - '0'.toNat)) 0

/-- A non-empty run of digits. -/
def digits? (text : List Char) : Option (List Char × List Char) :=
  match text.span Char.isDigit with
  | ([], _) => none
  | found => some found

/-- An exponent, if one is written: its value and the rest of the text. -/
def exponent? : List Char → Option (Option Int × List Char)
  | letter :: rest =>
    if letter = 'e' ∨ letter = 'E' then
      match rest with
      | '-' :: rest => (digits? rest).map fun (digits, rest) =>
          (some (-(natOfDigits digits : Int)), rest)
      | '+' :: rest => (digits? rest).map fun (digits, rest) =>
          (some (natOfDigits digits : Int), rest)
      | rest => (digits? rest).map fun (digits, rest) =>
          (some (natOfDigits digits : Int), rest)
    else some (none, letter :: rest)
  | [] => some (none, [])

/-- A fraction, if one is written: its digits and the rest of the text. -/
def fraction? : List Char → Option (Option (List Char) × List Char)
  | '.' :: rest => (digits? rest).map fun (digits, rest) => (some digits, rest)
  | rest => some (none, rest)

/-- A number without its sign. -/
def unsigned? (negative : Bool) (text : List Char) : Option (Json × List Char) := do
  let (whole, rest) ← digits? text
  if whole.length > 1 ∧ whole.head? = some '0' then none
  else
    let (fraction, rest) ← fraction? rest
    let (exponent, rest) ← exponent? rest
    let real := Json.real
      (.ofLiteral negative whole (fraction.getD []) (exponent.getD 0))
    if fraction.isSome ∨ exponent.isSome then return (real, rest)
    else
      let value := natOfDigits whole
      if negative then
        return (if value = 0 ∨ 1 <<< 63 < value then real else .integer (-value), rest)
      else return (if value < UInt64.size then .integer value else real, rest)

/-- A number. -/
def number? : List Char → Option (Json × List Char)
  | '-' :: rest => unsigned? true rest
  | text => unsigned? false text

/-- How many lists and objects may stand inside each other. -/
def greatestDepth : Nat := 127

/-- A list or an object, if it may have any depth at all. -/
def nested (depth : Nat) (value : Json) : Json := if depth = 0 then .unreadable else value

mutual

/-- One value and the rest of the text; `depth` is how deep lists and objects may go on. -/
def value? : (fuel depth : Nat) → List Char → Option (Json × List Char)
  | 0, _, _ => none
  | fuel + 1, depth, text =>
    match skipBlanks text with
    | '"' :: rest => (stringBody? .empty rest).map fun (text, rest) =>
        (text.elim .unreadable .string, rest)
    | '[' :: rest =>
      match skipBlanks rest with
      | ']' :: rest => some (nested depth (.array []), rest)
      | rest => (items? fuel (depth - 1) [] rest).map fun (items, rest) =>
          (nested depth (.array items), rest)
    | '\x7b' :: rest =>
      match skipBlanks rest with
      | '\x7d' :: rest => some (nested depth (.object []), rest)
      | rest => (members? fuel (depth - 1) (some []) rest).map fun (members, rest) =>
          (nested depth (members.elim .unreadable .object), rest)
    | 't' :: 'r' :: 'u' :: 'e' :: rest => some (.bool true, rest)
    | 'f' :: 'a' :: 'l' :: 's' :: 'e' :: rest => some (.bool false, rest)
    | 'n' :: 'u' :: 'l' :: 'l' :: rest => some (.null, rest)
    | text => number? text

/-- The items of a list up to its bracket; `read` holds the items so far, last first. -/
def items? : (fuel depth : Nat) → (read : List Json) → List Char →
    Option (List Json × List Char)
  | 0, _, _, _ => none
  | fuel + 1, depth, read, text =>
    match value? fuel depth text with
    | none => none
    | some (item, rest) =>
      match skipBlanks rest with
      | ',' :: rest => items? fuel depth (item :: read) rest
      | ']' :: rest => some ((item :: read).reverse, rest)
      | _ => none

/-- The members of an object up to its brace. `read` holds the members so far, last first, or
nothing once a name could not be read. -/
def members? : (fuel depth : Nat) → (read : Option (List (String × Json))) → List Char →
    Option (Option (List (String × Json)) × List Char)
  | 0, _, _, _ => none
  | fuel + 1, depth, read, text =>
    match skipBlanks text with
    | '"' :: rest =>
      match stringBody? .empty rest with
      | none => none
      | some (name, rest) =>
        match skipBlanks rest with
        | ':' :: rest =>
          match value? fuel depth rest with
          | none => none
          | some (value, rest) =>
            let read := return (← name, value) :: (← read)
            match skipBlanks rest with
            | ',' :: rest => members? fuel depth read rest
            | '\x7d' :: rest => some (read.map List.reverse, rest)
            | _ => none
        | _ => none
    | _ => none

end

end Reader

/-- The value a text writes, if it is a JSON text. -/
def parse? (text : String) : Option Json :=
  let characters := text.toList
  match Reader.value? (characters.length + 1) Reader.greatestDepth characters with
  | none => none
  | some (value, rest) => if Reader.skipBlanks rest = [] then some value else none

end Json

end SwapLedger
