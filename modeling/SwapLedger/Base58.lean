import SwapLedger.Bytes

/-!
# Base 58

A byte string is written as a number in base 58, most significant digit first, where every leading
zero byte is one leading `1`. The alphabet leaves out the characters that are easily confused.
-/

namespace SwapLedger

namespace Base58

/-- The digits, in order of value. -/
def alphabet : List Char :=
  "123456789ABCDEFGHJKLMNPQRSTUVWXYZabcdefghijkmnopqrstuvwxyz".toList

/-- The character of a digit below 58. -/
def digitChar (digit : Nat) : Char := alphabet.getD digit '1'

/-- The value of a character of the alphabet. -/
def digitValue? (character : Char) : Option Nat := alphabet.idxOf? character

/-- The digits of `value` in `base`, most significant first; zero has none. -/
def digits (base value : Nat) : List Nat :=
  go base value value []
where
  /-- Peels off the low digit until the value is used up; `fuel` bounds the number of digits. -/
  go (base : Nat) : (fuel value : Nat) → List Nat → List Nat
    | 0, _, collected => collected
    | fuel + 1, value, collected =>
      if value = 0 then collected else go base fuel (value / base) (value % base :: collected)

/-- The text of a byte string. -/
def encode (bytes : Bytes) : String :=
  let zeros := bytes.takeWhile (· == 0)
  let significant := digits 58 (Bytes.toNatBigEndian bytes)
  String.ofList (zeros.map (fun _ => '1') ++ significant.map digitChar)

/-- The byte string a text stands for, or `none` if a character is not of the alphabet. -/
def decode? (text : String) : Option Bytes := do
  let characters := text.toList
  let values ← characters.mapM digitValue?
  let value := values.foldl (fun total digit => total * 58 + digit) 0
  let zeros := characters.takeWhile (· == '1')
  return zeros.map (fun _ => 0) ++ (digits 256 value).map UInt8.ofNat

/-- The byte string a text stands for; a garbled text stands for no bytes. -/
def decode (text : String) : Bytes := (decode? text).getD []

end Base58

end SwapLedger
