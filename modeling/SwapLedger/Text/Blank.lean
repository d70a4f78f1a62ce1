/-!
# Blank characters

The characters with the property `White_Space`. Settings are trimmed of them.
-/

namespace SwapLedger

namespace Text

/-- The ranges of blank characters, ends included. -/
def blankRanges : List (Nat × Nat) :=
  [(0x09, 0x0D), (0x20, 0x20), (0x85, 0x85), (0xA0, 0xA0), (0x1680, 0x1680), (0x2000, 0x200A),
    (0x2028, 0x2029), (0x202F, 0x202F), (0x205F, 0x205F), (0x3000, 0x3000)]

/-- Whether a character is blank. -/
def isBlank (character : Char) : Bool :=
  blankRanges.any fun (first, last) =>
    decide (first ≤ character.toNat) && decide (character.toNat ≤ last)

/-- A list of characters without the blanks at its ends. -/
def trimmed (characters : List Char) : List Char :=
  ((characters.dropWhile isBlank).reverse.dropWhile isBlank).reverse

/-- The pieces between separators; there is one more of them than of separators. -/
def pieces (separator : Char) : List Char → List (List Char)
  | [] => [[]]
  | character :: rest =>
    if character = separator then [] :: pieces separator rest
    else
      match pieces separator rest with
      | [] => [[character]]
      | piece :: others => (character :: piece) :: others

/-- Digits behind at most one plus sign, as settings write numbers. -/
def natural? (characters : List Char) : Option Nat :=
  let digits := match characters with
    | '+' :: digits => digits
    | digits => digits
  if digits ≠ [] ∧ digits.all Char.isDigit then
    some (digits.foldl (fun total digit => total * 10 + (digit.toNat - '0'.toNat)) 0)
  else none

/-- Capital letters of the Latin alphabet made small, all else kept. -/
def lowercase (text : String) : String := String.ofList (text.toList.map Char.toLower)

end Text

end SwapLedger
