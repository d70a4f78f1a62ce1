import SwapLedger.Decimal

/-!
# The text of decimal amounts

`toText` is the form in which amounts are shown and stored in work items: positional, unless the
amount is so small that more than five zeros would follow the point, or so large that more than
fifteen zeros would have to be added. `toPlainText` is always positional; it is the form that the
database keeps. `ofText?` reads both, and any mantissa with an exponent.
-/

namespace SwapLedger

namespace Decimal

/-- The digits of a magnitude. -/
def digitsOf (value : Int) : List Char := Nat.toDigits 10 value.natAbs

/-- A minus sign for a negative number. -/
def signOf (value : Int) : List Char := if value < 0 then ['-'] else []

/-- An integer with its sign. -/
def signedDigits (value : Int) : List Char := signOf value ++ digitsOf value

/-- `digits` with a point before the last `places` of them, and zeros in front where needed. -/
def withPoint (digits : List Char) (places : Nat) : List Char :=
  let padded := List.replicate (places + 1 - digits.length) '0' ++ digits
  let whole := padded.length - places
  padded.take whole ++ '.' :: padded.drop whole

/-- The form in which an amount is shown. -/
def toText (amount : Decimal) : String :=
  if amount.unscaled = 0 then "0"
  else
    let digits := digitsOf amount.unscaled
    let sign := signOf amount.unscaled
    let body :=
      if 0 < amount.scale then
        if 5 < amount.scale - digits.length then
          let fraction := if digits.length = 1 then [] else '.' :: digits.drop 1
          digits.take 1 ++ fraction ++ 'E' :: signedDigits (digits.length - 1 - amount.scale)
        else withPoint digits amount.scale.toNat
      else if -amount.scale ≤ 15 then digits ++ List.replicate (-amount.scale).toNat '0'
      else digits ++ ['e', '+'] ++ digitsOf amount.scale
    String.ofList (sign ++ body)

/-- Positional notation with exactly as many decimals as the scale says; zero has no sign. -/
def toPlainText (amount : Decimal) : String :=
  let digits := digitsOf amount.unscaled
  let body :=
    if 0 < amount.scale then withPoint digits amount.scale.toNat
    else if amount.unscaled = 0 then digits
    else digits ++ List.replicate (-amount.scale).toNat '0'
  String.ofList (signOf amount.unscaled ++ body)

/-- A plain run of digits with an optional sign, as an exponent is written. -/
def exponent? (text : List Char) : Option Int :=
  let magnitude? (digits : List Char) : Option Int :=
    if digits ≠ [] ∧ digits.all Char.isDigit then
      some (digits.foldl (fun total digit => total * 10 + (digit.toNat - '0'.toNat)) 0 : Nat)
    else none
  match text with
  | '-' :: digits => (magnitude? digits).map (- ·)
  | '+' :: digits => magnitude? digits
  | digits => magnitude? digits

/-- Digits that may be grouped by underscores, but not begin with one, behind at most one sign. -/
def mantissa? (text : List Char) : Option Int :=
  let magnitude? (digits : List Char) : Option Nat :=
    if digits = [] ∨ digits.head? = some '_' then none
    else
      let digits := digits.filter (· != '_')
      if digits.all Char.isDigit then
        some (digits.foldl (fun total digit => total * 10 + (digit.toNat - '0'.toNat)) 0)
      else none
  match text with
  | '-' :: digits => (magnitude? digits).map fun value => -(value : Int)
  | '+' :: digits => (magnitude? digits).map fun value => (value : Int)
  | digits => (magnitude? digits).map fun value => (value : Int)

/-- The amount a text writes, if it writes one. -/
def ofText? (text : String) : Option Decimal := do
  let characters := text.toList
  let isLetter (character : Char) : Bool := character == 'e' || character == 'E'
  let base := characters.takeWhile (! isLetter ·)
  let exponent ← match characters.dropWhile (! isLetter ·) with
    | [] => some 0
    | _ :: exponent => exponent? exponent
  let whole := base.takeWhile (· != '.')
  let fraction := (base.dropWhile (· != '.')).drop 1
  let unscaled ← mantissa? (whole ++ fraction)
  let scale := ((fraction.filter (· != '_')).length : Int) - exponent
  let bound : Int := (1 <<< 63 : Nat)
  if -bound ≤ scale ∧ scale < bound then return ⟨unscaled, scale⟩ else none

end Decimal

end SwapLedger
