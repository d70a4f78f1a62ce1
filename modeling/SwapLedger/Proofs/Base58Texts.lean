import Mathlib.Data.List.TakeWhile
import Mathlib.Data.Nat.Digits.Lemmas
import SwapLedger.Base58

/-!
# Texts in base 58

A byte string is read back from its text in base 58: every leading zero is one character, and the
bytes after them are the digits of one number, in two bases. So no two byte strings have the same
text, and only the empty one has an empty text.
-/

namespace SwapLedger

namespace Base58

variable {base value digit : Nat}

/-- The digits are those of the library, as long as there is fuel for all of them. -/
theorem go_eq (large : 1 < base) {fuel : Nat} (enough : value ≤ fuel) (collected : List Nat) :
    digits.go base fuel value collected = (Nat.digits base value).reverse ++ collected := by
  induction fuel generalizing value collected with
  | zero =>
      have used : value = 0 := by omega
      simp [digits.go, used]
  | succ fuel ih =>
      rw [digits.go]
      by_cases used : value = 0
      · simp [used]
      · have positive : 0 < value := by omega
        have smaller : value / base < value := Nat.div_lt_self positive large
        rw [if_neg used, ih (by omega), Nat.digits_def' large positive]
        simp

/-- The digits of a number are those of the library, the most significant one first. -/
theorem digits_eq (large : 1 < base) (value : Nat) :
    digits base value = (Nat.digits base value).reverse := by
  rw [digits, go_eq large (Nat.le_refl value), List.append_nil]

theorem lt_of_mem_digits (large : 1 < base) (member : digit ∈ digits base value) :
    digit < base := by
  rw [digits_eq large, List.mem_reverse] at member
  exact Nat.digits_lt_base large member

/-- The most significant digit is not zero. -/
theorem ne_zero_of_digits_eq_cons (large : 1 < base) {rest : List Nat}
    (starts : digits base value = digit :: rest) : digit ≠ 0 := by
  rw [digits_eq large, List.reverse_eq_cons_iff] at starts
  have positive : value ≠ 0 := by
    intro none
    simp [none] at starts
  have last := Nat.getLast_digit_ne_zero base positive
  simpa only [starts, List.getLast_append_singleton] using last

theorem foldl_reverse_eq_ofDigits (base : Nat) (list : List Nat) :
    list.reverse.foldl (fun total digit => total * base + digit) 0 = Nat.ofDigits base list := by
  rw [List.foldl_reverse, Nat.ofDigits_eq_foldr]
  congr 1
  funext digit total
  simp [Nat.mul_comm, Nat.add_comm]

/-- A number is read back from its digits. -/
theorem foldl_digits (large : 1 < base) (value : Nat) :
    (digits base value).foldl (fun total digit => total * base + digit) 0 = value := by
  rw [digits_eq large, foldl_reverse_eq_ofDigits, Nat.ofDigits_digits]

theorem foldl_replicate_zero (base leading : Nat) :
    (List.replicate leading 0).foldl (fun total digit => total * base + digit) 0 = 0 := by
  induction leading with
  | zero => rfl
  | succ leading ih => simpa [List.replicate_succ] using ih

/-! ## Characters -/

/-- Each of the letters stands for a digit of its own. -/
theorem digitValue?_digitChar : ∀ digit < 58, digitValue? (digitChar digit) = some digit := by
  decide +kernel

theorem digitChar_eq_iff : ∀ digit < 58, digitChar digit = '1' ↔ digit = 0 := by
  decide +kernel

/-- Letters are read back as the digits that they stand for. -/
theorem mapM_digitValue? {list : List Nat} (small : ∀ digit ∈ list, digit < 58) :
    (list.map digitChar).mapM digitValue? = some list := by
  induction list with
  | nil => rfl
  | cons digit rest ih =>
      simp only [List.mem_cons, forall_eq_or_imp] at small
      simp [digitValue?_digitChar digit small.1, ih small.2]

/-! ## Bytes -/

/-- How many zeros a byte string starts with. -/
def leadingZeros (bytes : Bytes) : Nat := (bytes.takeWhile (· == 0)).length

/-- Bytes are their leading zeros, and what is left behind these. -/
theorem eq_replicate_append (bytes : Bytes) :
    bytes = List.replicate (leadingZeros bytes) 0 ++ bytes.dropWhile (· == 0) := by
  have zeros : bytes.takeWhile (· == 0) = List.replicate (leadingZeros bytes) 0 := by
    rw [List.eq_replicate_iff]
    refine ⟨rfl, ?_⟩
    intro byte member
    simpa using List.mem_takeWhile_imp member
  rw [← zeros, List.takeWhile_append_dropWhile]

theorem toNatBigEndian_eq (bytes : Bytes) :
    Bytes.toNatBigEndian bytes = Nat.ofDigits 256 (bytes.map UInt8.toNat).reverse := by
  rw [← foldl_reverse_eq_ofDigits, List.reverse_reverse, List.foldl_map]
  rfl

/-- Leading zeros do not change the number that bytes make. -/
theorem toNatBigEndian_dropWhile (bytes : Bytes) :
    Bytes.toNatBigEndian (bytes.dropWhile (· == 0)) = Bytes.toNatBigEndian bytes := by
  conv_rhs => rw [eq_replicate_append bytes]
  simp only [Bytes.toNatBigEndian, List.foldl_append]
  congr 1
  induction leadingZeros bytes with
  | zero => rfl
  | succ leading ih => simpa [List.replicate_succ] using ih

/-- The bytes behind the leading zeros are read back from the number that they make. -/
theorem digits_toNatBigEndian (bytes : Bytes) :
    digits 256 (Bytes.toNatBigEndian bytes) =
      (bytes.dropWhile (· == 0)).map UInt8.toNat := by
  rw [← toNatBigEndian_dropWhile, digits_eq (by decide), toNatBigEndian_eq, Nat.digits_ofDigits,
    List.reverse_reverse]
  · decide
  · intro digit member
    simp only [List.mem_reverse, List.mem_map] at member
    rcases member with ⟨byte, _, rfl⟩
    exact byte.toNat_lt
  · intro filled last
    rcases starts : bytes.dropWhile (· == 0) with _ | ⟨byte, rest⟩
    · simp [starts] at filled
    · have significant : byte ≠ 0 := by
        have first := List.head?_dropWhile_not (· == 0) bytes
        simpa [starts] using first
      simp only [starts, List.map_cons, List.reverse_cons, List.getLast_append_singleton] at last
      exact significant (UInt8.toNat_inj.mp last)

/-- The text of bytes has a letter for each leading zero, and then the digits of the number. -/
theorem toList_encode (bytes : Bytes) : (encode bytes).toList =
    (List.replicate (leadingZeros bytes) 0 ++
      digits 58 (Bytes.toNatBigEndian bytes)).map digitChar := by
  have zero : digitChar 0 = '1' := by decide +kernel
  simp [encode, leadingZeros, zero, List.map_const']

theorem lt_of_mem_significant {bytes : Bytes}
    (member : digit ∈ List.replicate (leadingZeros bytes) 0 ++
      digits 58 (Bytes.toNatBigEndian bytes)) : digit < 58 := by
  rcases List.mem_append.mp member with leading | significant
  · simp [List.eq_of_mem_replicate leading]
  · exact lt_of_mem_digits (by decide) significant

/-- The digits of the number do not start with a zero, so the leading zeros are told apart from
them. -/
theorem takeWhile_encode (bytes : Bytes) : (encode bytes).toList.takeWhile (· == '1') =
    List.replicate (leadingZeros bytes) '1' := by
  have zero : digitChar 0 = '1' := by decide +kernel
  have none : ((digits 58 (Bytes.toNatBigEndian bytes)).map digitChar).takeWhile (· == '1') =
      [] := by
    rcases starts : digits 58 (Bytes.toNatBigEndian bytes) with _ | ⟨digit, rest⟩
    · rfl
    · have small : digit < 58 := lt_of_mem_digits (by decide) (starts ▸ List.mem_cons_self)
      have significant := ne_zero_of_digits_eq_cons (by decide) starts
      simp [digitChar_eq_iff digit small, significant]
  rw [toList_encode, List.map_append, List.map_replicate, zero,
    List.takeWhile_append_of_pos (by simp), none, List.append_nil]

/-- A byte string is read back from its text. -/
theorem decode?_encode (bytes : Bytes) : decode? (encode bytes) = some bytes := by
  have values : (encode bytes).toList.mapM digitValue? =
      some (List.replicate (leadingZeros bytes) 0 ++ digits 58 (Bytes.toNatBigEndian bytes)) := by
    rw [toList_encode, mapM_digitValue? fun _ => lt_of_mem_significant]
  have number : (List.replicate (leadingZeros bytes) 0 ++
      digits 58 (Bytes.toNatBigEndian bytes)).foldl (fun total digit => total * 58 + digit) 0 =
        Bytes.toNatBigEndian bytes := by
    rw [List.foldl_append, foldl_replicate_zero, foldl_digits (by decide)]
  have significant : (digits 256 (Bytes.toNatBigEndian bytes)).map UInt8.ofNat =
      bytes.dropWhile (· == 0) := by
    simp [digits_toNatBigEndian, Function.comp_def]
  simp only [decode?, values, number, takeWhile_encode, significant, Option.bind_eq_bind,
    Option.bind_some, List.map_replicate, ← eq_replicate_append]
  rfl

/-- Different bytes have different texts, as each text is decoded to its bytes. -/
theorem encode_injective : Function.Injective encode := by
  intro bytes other same
  have read := decode?_encode bytes
  rw [same, decode?_encode, Option.some.injEq] at read
  exact read.symm

theorem encode_ne_empty {bytes : Bytes} (filled : bytes ≠ []) : encode bytes ≠ "" := by
  intro empty
  apply filled
  apply encode_injective
  rw [empty]
  rfl

end Base58

end SwapLedger
