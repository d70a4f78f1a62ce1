import SwapLedger.Binary64

/-!
# Doubles from decimal literals

The double that a decimal literal with a fraction or an exponent stands for. The leading digits that
fit an unsigned 64-bit word are rounded to a double, which is then multiplied or divided by a power
of ten and rounded again. Digits that do not fit count for nothing but their place, and two
roundings may miss the nearest double by some last places.
-/

namespace SwapLedger

namespace Binary64

/-- Appends digits to a number as long as it fits a word, and gives the digits that are left. -/
def gathered (number : Nat) : List Char → Nat × List Char
  | [] => (number, [])
  | digit :: rest =>
    let longer := number * 10 + (digit.toNat - '0'.toNat)
    if longer < UInt64.size then gathered longer rest else (number, digit :: rest)

/-- The greatest exponent of a power of ten that is a double. -/
def greatestTen : Nat := 308

/-- A power of ten, rounded once. -/
def tenTo (exponent : Nat) : Binary64 := ofNat (Nat.pow 10 exponent)

/-- Multiplies a word by a power of ten; one that is no double leaves only zero finite. -/
def raised (exponent : Nat) (value : Binary64) : Binary64 :=
  if exponent ≤ greatestTen then value.mul (tenTo exponent)
  else if value = zero false then value
  else .infinite false

/-- Divides a word by a power of ten, if need be in two steps. What would need more is zero. -/
def lowered (exponent : Nat) (value : Binary64) : Binary64 :=
  if exponent ≤ greatestTen then value.div (tenTo exponent)
  else if exponent ≤ 2 * greatestTen then
    (value.div (tenTo greatestTen)).div (tenTo (exponent - greatestTen))
  else zero false

/-- The number of a literal: its sign, the digits before and behind the point, and its exponent. A
literal beyond the finite numbers gives an infinite one. -/
def ofLiteral (negative : Bool) (whole fraction : List Char) (exponent : Int) : Binary64 :=
  let (significand, wholeLeft) := gathered 0 whole
  let (significand, fractionLeft) := gathered significand fraction
  let places : Int := fraction.length - fractionLeft.length
  let exponent := exponent + wholeLeft.length - places
  let magnitude :=
    if exponent < 0 then lowered (-exponent).toNat (ofNat significand)
    else raised exponent.toNat (ofNat significand)
  if negative then magnitude.negated else magnitude

end Binary64

end SwapLedger
