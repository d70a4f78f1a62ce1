import SwapLedger.Binary64

/-!
# Decimal amounts

An amount is an integer and a scale, and both are kept: 1000000000 units at nine places are
`1.000000000` and not `1`. Two amounts may therefore be different and still have the same value;
`SameValue` is the relation that ignores trailing zeros.
-/

namespace SwapLedger

/-- The number `unscaled * 10 ^ -scale`. -/
structure Decimal where
  /-- All digits, with the sign. -/
  unscaled : Int
  /-- How many of the digits stand behind the point. -/
  scale : Int
  deriving DecidableEq, Inhabited

namespace Decimal

/-- An amount of `raw` smallest units of a token with `places` decimal places. -/
def ofUnits (raw : UInt64) (places : UInt8) : Decimal := ⟨raw.toNat, places.toNat⟩

/-- An integer. -/
def ofInt (value : Int) : Decimal := ⟨value, 0⟩

/-- Whether the amount is greater than zero. -/
def IsPositive (amount : Decimal) : Prop := 0 < amount.unscaled

instance (amount : Decimal) : Decidable amount.IsPositive :=
  inferInstanceAs (Decidable (0 < amount.unscaled))

/-- The digits of `value` without its trailing zeros, and how many there were. -/
def stripZeros : (fuel value zeros : Nat) → Nat × Nat
  | 0, value, zeros => (value, zeros)
  | fuel + 1, value, zeros =>
    if value ≠ 0 ∧ value % 10 = 0 then stripZeros fuel (value / 10) (zeros + 1)
    else (value, zeros)

/-- The same value without trailing zeros; zero has scale zero. -/
def normalize (amount : Decimal) : Decimal :=
  if amount.unscaled = 0 then ⟨0, 0⟩
  else
    let magnitude := amount.unscaled.natAbs
    let (digits, zeros) := stripZeros (Nat.log2 magnitude) magnitude 0
    ⟨if amount.unscaled < 0 then -(digits : Int) else digits, amount.scale - zeros⟩

/-- Whether two amounts have the same value, whatever their scales. -/
def SameValue (left right : Decimal) : Prop := left.normalize = right.normalize

instance (left right : Decimal) : Decidable (left.SameValue right) :=
  inferInstanceAs (Decidable (left.normalize = right.normalize))

/-- The exact value of a double: an integral one has scale zero, another has just the places it
needs. -/
def ofBinary64? : Binary64 → Option Decimal
  | .finite negative m e =>
    let signed (digits : Nat) : Int := if negative then -(digits : Int) else digits
    if 0 ≤ e then some ⟨signed (m <<< e.toNat), 0⟩
    else
      let places := (-e).toNat
      let (odd, halved) := halve places m 0
      let places := places - halved
      some ⟨signed (odd * Nat.pow 5 places), places⟩
  | _ => none
where
  /-- Halves an even number at most `fuel` times, and counts how often. -/
  halve : (fuel value halved : Nat) → Nat × Nat
    | 0, value, halved => (value, halved)
    | fuel + 1, value, halved =>
      if value % 2 = 0 then halve fuel (value / 2) (halved + 1) else (value, halved)

end Decimal

end SwapLedger
