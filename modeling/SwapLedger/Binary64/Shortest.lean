import SwapLedger.Binary64

/-!
# Shortest decimal form

The fewest decimal digits that read back as a given double. The reals that round to
`m * 2 ^ e` form an interval, with its ends when `m` is even; for one digit, two digits and so on,
the two neighbours of the value among the decimals with that many digits are tried, and the first
count with a hit wins. Of two hits the nearer one is taken; when both are as near, the form decides.
-/

namespace SwapLedger

namespace Binary64

/-- The number of digits before the decimal point of `top / bottom`, counted negative for zeros
behind it: the `p` with `10 ^ (p - 1) ≤ top / bottom < 10 ^ p`. -/
def decimalMagnitude (top bottom : Nat) : Int :=
  if bottom ≤ top then (Nat.toDigits 10 (top / bottom)).length
  else go 400 top 0
where
  /-- Multiplies by ten until one is reached. -/
  go : (fuel top : Nat) → Int → Int
    | 0, _, magnitude => magnitude
    | fuel + 1, top, magnitude =>
      if bottom ≤ top * 10 then magnitude else go fuel (top * 10) (magnitude - 1)

/-- Whether `digits * 10 ^ exponent` lies between `low / bottom` and `high / bottom`. -/
def liesWithin (closed : Bool) (low high bottom digits : Nat) (exponent : Int) : Bool :=
  let up := if 0 ≤ exponent then Nat.pow 10 exponent.toNat else 1
  let down := if 0 ≤ exponent then 1 else Nat.pow 10 (-exponent).toNat
  let value := digits * up * bottom
  if closed then decide (low * down ≤ value) && decide (value ≤ high * down)
  else decide (low * down < value) && decide (value < high * down)

/-- Which of two decimals as near to a double is taken. -/
inductive Tie where
  /-- The one whose last digit is even. -/
  | toEven
  /-- The greater one. -/
  | up
  deriving DecidableEq

/-- Whether a tie above some digits leaves them as they are. -/
def Tie.keeps (digits : Nat) : Tie → Bool
  | .toEven => digits % 2 == 0
  | .up => false

/-- The shortest digits and the power of ten that scales them, for a positive magnitude. -/
def shortestDigits (tie : Tie) (m : Nat) (e : Int) : Nat × Int :=
  -- The value and the ends of its interval in quarters of the last place.
  let quarter := if m = 1 <<< 52 ∧ leastExponent < e then 1 else 2
  let (top, bottom) := shifted (4 * m) 1 (-(e - 2))
  let (low, _) := shifted (4 * m - quarter) 1 (-(e - 2))
  let (high, _) := shifted (4 * m + 2) 1 (-(e - 2))
  let magnitude := decimalMagnitude top bottom
  let closed := m % 2 == 0
  let attempt (count : Nat) : Option (Nat × Int) :=
    let exponent := magnitude - count
    let up := if 0 ≤ exponent then Nat.pow 10 exponent.toNat else 1
    let down := if 0 ≤ exponent then 1 else Nat.pow 10 (-exponent).toNat
    let below := top * down / (bottom * up)
    let remainder := top * down % (bottom * up)
    let lower := liesWithin closed low high bottom below exponent
    let upper := liesWithin closed low high bottom (below + 1) exponent
    if lower && upper then
      if 2 * remainder < bottom * up ∨ (2 * remainder = bottom * up ∧ tie.keeps below) then
        some (below, exponent)
      else some (below + 1, exponent)
    else if lower then some (below, exponent)
    else if upper then some (below + 1, exponent)
    else none
  ((List.range 17).findSome? fun index => attempt (index + 1)).getD (0, 0)

/-- The digits without trailing zeros, and the power of ten that scales them. -/
def trimZeros : (fuel digits : Nat) → Int → Nat × Int
  | 0, digits, exponent => (digits, exponent)
  | fuel + 1, digits, exponent =>
    if digits ≠ 0 ∧ digits % 10 = 0 then trimZeros fuel (digits / 10) (exponent + 1)
    else (digits, exponent)

/-- Shortest digits without trailing zeros; zero is `(0, 0)`. -/
def shortest (tie : Tie) (m : Nat) (e : Int) : Nat × Int :=
  if m = 0 then (0, 0)
  else
    let (digits, exponent) := shortestDigits tie m e
    trimZeros 20 digits exponent

/-- Positional notation without exponent, with as many decimals as needed; ties go up. -/
def plainText : Binary64 → String
  | .undefined => "NaN"
  | .infinite negative => if negative then "-inf" else "inf"
  | .finite negative m e =>
    let (digits, exponent) := shortest .up m e
    let sign := if negative then "-" else ""
    let written := Nat.toDigits 10 digits
    if 0 ≤ exponent then
      sign ++ String.ofList (written ++ List.replicate exponent.toNat '0')
    else
      let places := (-exponent).toNat
      let padded := List.replicate (places + 1 - written.length) '0' ++ written
      sign ++ String.ofList
        (padded.take (padded.length - places) ++ '.' :: padded.drop (padded.length - places))

end Binary64

end SwapLedger
