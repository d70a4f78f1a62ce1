/-!
# Double-precision numbers

The numbers of the IEEE 754 binary64 format, as far as delays and their multipliers need them:
rounding a quotient to the nearest number (a tie goes to the even significand), sums, products,
quotients, order, and cutting off to a natural number. Every operation is exact arithmetic on
integers followed by one rounding, so equations about doubles can be evaluated.
-/

namespace SwapLedger

/-- A double-precision number. A finite one is `significand * 2 ^ exponent`, with a significand
below `2 ^ 53` that is at least `2 ^ 52` unless the exponent is the least one. -/
inductive Binary64 where
  | finite (negative : Bool) (significand : Nat) (exponent : Int)
  | infinite (negative : Bool)
  /-- The result of an operation that has none. -/
  | undefined
  deriving DecidableEq, Inhabited

namespace Binary64

/-- The exponent of the smallest numbers. -/
def leastExponent : Int := -1074

/-- The exponent of the greatest numbers. -/
def greatestExponent : Int := 971

/-- Zero, with its sign. -/
def zero (negative : Bool) : Binary64 := .finite negative 0 leastExponent

/-- Numerator and denominator of `numerator / denominator * 2 ^ -exponent`. -/
def shifted (numerator denominator : Nat) (exponent : Int) : Nat × Nat :=
  if 0 ≤ exponent then (numerator, denominator <<< exponent.toNat)
  else (numerator <<< (-exponent).toNat, denominator)

/-- The integer nearest to a quotient; a tie goes to the even one. -/
def nearestEven (numerator denominator : Nat) : Nat :=
  let quotient := numerator / denominator
  let twice := 2 * (numerator % denominator)
  if twice < denominator then quotient
  else if denominator < twice then quotient + 1
  else quotient + quotient % 2

/-- The number nearest to `numerator / denominator`, with the given sign. -/
def ofQuotient (negative : Bool) (numerator denominator : Nat) : Binary64 :=
  if numerator = 0 then zero negative
  else
    let estimate : Int := (numerator.log2 : Int) - denominator.log2 - 53
    let (top, bottom) := shifted numerator denominator estimate
    let exponent := if top / bottom < 1 <<< 53 then estimate else estimate + 1
    let exponent := max leastExponent exponent
    let (top, bottom) := shifted numerator denominator exponent
    let significand := nearestEven top bottom
    let (significand, exponent) :=
      if significand = 1 <<< 53 then (1 <<< 52, exponent + 1) else (significand, exponent)
    if greatestExponent < exponent then .infinite negative
    else .finite negative significand exponent

/-- The number nearest to an integer. -/
def ofInt (value : Int) : Binary64 := ofQuotient (decide (value < 0)) value.natAbs 1

/-- The number nearest to a natural number. -/
def ofNat (value : Nat) : Binary64 := ofQuotient false value 1

/-- Whether the number is neither infinite nor undefined. -/
def isFinite : Binary64 → Bool
  | .finite .. => true
  | _ => false

/-- A signed significand in units of the power of two with the exponent `least`. -/
def scaled (least : Int) (negative : Bool) (significand : Nat) (exponent : Int) : Int :=
  let magnitude : Int := significand <<< (exponent - least).toNat
  if negative then -magnitude else magnitude

/-- The sum, rounded once. Numbers that cancel give the zero that is negative only if both are. -/
def add : Binary64 → Binary64 → Binary64
  | .finite negative m e, .finite negative' m' e' =>
    let least := min e e'
    let sum := scaled least negative m e + scaled least negative' m' e'
    if sum = 0 then zero (negative && negative')
    else
      let (top, bottom) := shifted sum.natAbs 1 (-least)
      ofQuotient (decide (sum < 0)) top bottom
  | .finite .., .infinite negative => .infinite negative
  | .infinite negative, .finite .. => .infinite negative
  | .infinite negative, .infinite negative' =>
    if negative = negative' then .infinite negative else .undefined
  | _, _ => .undefined

/-- The product, rounded once. -/
def mul : Binary64 → Binary64 → Binary64
  | .finite negative m e, .finite negative' m' e' =>
    let (top, bottom) := shifted (m * m') 1 (-(e + e'))
    ofQuotient (negative != negative') top bottom
  | .finite negative m _, .infinite negative' =>
    if m = 0 then .undefined else .infinite (negative != negative')
  | .infinite negative, .finite negative' m _ =>
    if m = 0 then .undefined else .infinite (negative != negative')
  | .infinite negative, .infinite negative' => .infinite (negative != negative')
  | _, _ => .undefined

/-- The quotient, rounded once. -/
def div : Binary64 → Binary64 → Binary64
  | .finite negative m e, .finite negative' m' e' =>
    let negative := negative != negative'
    if m' = 0 then if m = 0 then .undefined else .infinite negative
    else
      let (top, bottom) := shifted m m' (e' - e)
      ofQuotient negative top bottom
  | .finite negative _ _, .infinite negative' => zero (negative != negative')
  | .infinite negative, .finite negative' _ _ => .infinite (negative != negative')
  | _, _ => .undefined

/-- The number with the other sign. -/
def negated : Binary64 → Binary64
  | .finite negative m e => .finite (! negative) m e
  | .infinite negative => .infinite (! negative)
  | .undefined => .undefined

/-- The power by repeated squaring: each bit of the exponent that is set multiplies the result by
the square reached so far. Rounding happens at every step, so the order of steps matters. -/
def powNat (base : Binary64) (exponent : Nat) : Binary64 :=
  go exponent exponent base (ofNat 1)
where
  /-- Works off the low bit; `fuel` bounds the number of bits. -/
  go : (fuel exponent : Nat) → (square result : Binary64) → Binary64
    | 0, _, _, result => result
    | fuel + 1, exponent, square, result =>
      let result := if exponent % 2 = 1 then result.mul square else result
      if exponent / 2 = 0 then result else go fuel (exponent / 2) (square.mul square) result

/-- The power with an integer exponent; a negative one is the reciprocal of the positive power. -/
def pow (base : Binary64) (exponent : Int) : Binary64 :=
  let power := powNat base exponent.natAbs
  if exponent < 0 then (ofNat 1).div power else power

/-- Whether the first number is less than the second; nothing is less than an undefined one. -/
def lt : Binary64 → Binary64 → Bool
  | .undefined, _ => false
  | _, .undefined => false
  | .infinite negative, .infinite negative' => negative && !negative'
  | .infinite negative, .finite .. => negative
  | .finite .., .infinite negative => !negative
  | .finite negative m e, .finite negative' m' e' =>
    let least := min e e'
    decide (scaled least negative m e < scaled least negative' m' e')

/-- The smaller number; an undefined one gives way to the other. -/
def min (x y : Binary64) : Binary64 :=
  match x, y with
  | .undefined, y => y
  | x, .undefined => x
  | x, y => if y.lt x then y else x

/-- The integral part as an unsigned 64-bit word: below zero it is zero, above the greatest word
it is the greatest word. -/
def toUInt64 : Binary64 → UInt64
  | .finite true _ _ => 0
  | .finite false m e =>
    let value := if 0 ≤ e then m <<< e.toNat else m >>> (-e).toNat
    if value < UInt64.size then UInt64.ofNat value else UInt64.ofNat (UInt64.size - 1)
  | .infinite false => UInt64.ofNat (UInt64.size - 1)
  | .infinite true => 0
  | .undefined => 0

end Binary64

end SwapLedger
