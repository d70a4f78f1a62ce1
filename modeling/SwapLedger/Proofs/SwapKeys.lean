import Mathlib.Algebra.Field.Rat
import Mathlib.Data.List.Count
import Mathlib.Tactic.Ring
import SwapLedger.Proofs.Reconstruction
import SwapLedger.Tables

/-!
# Keys of stored swaps

What tells the rows of swaps apart. Amounts count by their values there, not by how they are
written: two amounts have the same value just if nothing remains different between them when their
trailing zeros are taken away. A row is added unless its key is there already, so adding rows again
changes nothing, and of the rows of one key only the first is kept.
-/

namespace SwapLedger

namespace Decimal

/-- As many halvings as a number allows are enough to take away all its trailing zeros. -/
theorem stripZeros_spec {value : Nat} (positive : value ≠ 0) (fuel zeros : Nat)
    (bounded : value < 2 ^ (fuel + 1)) :
    ∃ digits count, stripZeros fuel value zeros = (digits, zeros + count) ∧
      value = digits * 10 ^ count ∧ digits % 10 ≠ 0 := by
  induction fuel generalizing value zeros with
  | zero =>
      have one : value = 1 := by omega
      exact ⟨1, 0, by rw [one]; rfl, by omega, by omega⟩
  | succ fuel ih =>
      by_cases divisible : value % 10 = 0
      · have shorter : value / 10 < 2 ^ (fuel + 1) := by
          rw [Nat.pow_succ] at bounded
          omega
        rcases ih (by omega) (zeros + 1) shorter with ⟨digits, count, stripped, product, reduced⟩
        refine ⟨digits, count + 1, ?_, ?_, reduced⟩
        · rw [stripZeros, if_pos ⟨positive, divisible⟩, stripped, Nat.add_assoc, Nat.add_comm 1]
        · calc value = value / 10 * 10 := by omega
            _ = digits * 10 ^ (count + 1) := by rw [product, Nat.pow_succ, Nat.mul_assoc]
      · refine ⟨value, 0, ?_, by simp, divisible⟩
        rw [stripZeros, if_neg fun both => divisible both.2, Nat.add_zero]

/-- Trailing zeros go from the digits into the scale. -/
theorem normalize_spec {amount : Decimal} (nonzero : amount.unscaled ≠ 0) :
    ∃ (digits : ℤ) (count : ℕ), amount.normalize = ⟨digits, amount.scale - count⟩ ∧
      amount.unscaled = digits * 10 ^ count ∧ ¬ (10 : ℤ) ∣ digits := by
  have positive : amount.unscaled.natAbs ≠ 0 := Int.natAbs_ne_zero.mpr nonzero
  rcases stripZeros_spec positive _ 0 Nat.lt_log2_self with
    ⟨digits, count, stripped, product, reduced⟩
  have product : (amount.unscaled.natAbs : ℤ) = digits * 10 ^ count := by exact_mod_cast product
  rw [normalize, if_neg nonzero]
  simp only [stripped, Nat.zero_add]
  by_cases negative : amount.unscaled < 0
  · rw [if_pos negative]
    refine ⟨_, _, rfl, ?_, by omega⟩
    rw [neg_mul, ← product]
    omega
  · rw [if_neg negative]
    refine ⟨_, _, rfl, ?_, by omega⟩
    rw [← product]
    omega

/-- Trailing zeros can be moved into the scale. -/
theorem value_shift (digits scale : ℤ) (count : ℕ) :
    value ⟨digits * 10 ^ count, scale⟩ = value ⟨digits, scale - count⟩ := by
  have ten : (10 : ℚ) ≠ 0 := by norm_num
  rw [value, value]
  push_cast
  rw [mul_assoc, ← zpow_natCast, ← zpow_add₀ ten, neg_sub, sub_eq_add_neg]

theorem value_normalize (amount : Decimal) : amount.normalize.value = amount.value := by
  by_cases zero : amount.unscaled = 0
  · rw [normalize, if_pos zero, value, value, zero]
    simp
  · rcases normalize_spec zero with ⟨digits, count, normalized, product, _⟩
    rw [normalized, ← value_shift, ← product]

theorem unscaled_eq {left right : Decimal} (scale : left.scale = right.scale)
    (same : left.value = right.value) : left.unscaled = right.unscaled := by
  rw [value, value, scale, mul_left_inj' (zpow_ne_zero _ (by norm_num))] at same
  exact Int.cast_injective same

/-- No other amount has the value of one without trailing zeros, unless it has more places. The one
with fewer places is written with as many as the other. -/
theorem eq_of_value_eq {left right : Decimal} (reduced : ¬ (10 : ℤ) ∣ right.unscaled)
    (ordered : left.scale ≤ right.scale) (same : left.value = right.value) : left = right := by
  rcases left with ⟨digits, scale⟩
  rcases Int.le.dest ordered with ⟨shift, places⟩
  have shifted : digits * 10 ^ shift = right.unscaled := by
    refine @unscaled_eq ⟨digits * 10 ^ shift, right.scale⟩ right rfl ?_
    rw [value_shift, ← places, add_sub_cancel_right, same]
  cases shift with
  | zero =>
      rw [Nat.cast_zero, add_zero] at places
      rw [pow_zero, mul_one] at shifted
      cases right
      rw [mk.injEq]
      exact ⟨shifted, places⟩
  | succ shift =>
      refine absurd ⟨digits * 10 ^ shift, ?_⟩ reduced
      rw [← shifted, pow_succ]
      ring

theorem value_eq_zero {amount : Decimal} : amount.value = 0 ↔ amount.unscaled = 0 := by
  rw [value, mul_eq_zero_iff_right (zpow_ne_zero _ (by norm_num)), Int.cast_eq_zero]

/-- Two amounts are equal up to trailing zeros just if they stand for the same number. -/
theorem sameValue_iff {left right : Decimal} :
    left.SameValue right ↔ left.value = right.value := by
  constructor
  · intro same
    rw [← value_normalize left, ← value_normalize right, same]
  · intro same
    rw [SameValue]
    by_cases zero : left.unscaled = 0
    · have zero' : right.unscaled = 0 := value_eq_zero.mp (same ▸ value_eq_zero.mpr zero)
      rw [normalize, if_pos zero, normalize, if_pos zero']
    · have nonzero : right.unscaled ≠ 0 := fun zero' =>
        zero (value_eq_zero.mp (same.trans (value_eq_zero.mpr zero')))
      have reduced {amount : Decimal} (nonzero : amount.unscaled ≠ 0) :
          ¬ (10 : ℤ) ∣ amount.normalize.unscaled := by
        rcases normalize_spec nonzero with ⟨_, _, normalized, _, reduced⟩
        rw [normalized]
        exact reduced
      rw [← value_normalize left, ← value_normalize right] at same
      rcases Int.le_total left.normalize.scale right.normalize.scale with ordered | ordered
      · exact eq_of_value_eq (reduced nonzero) ordered same
      · exact (eq_of_value_eq (reduced zero) ordered same.symm).symm

end Decimal

namespace SwapRecord

/-- What tells rows of swaps apart: the transaction, the pool, the direction, the values of both
amounts, the block and the time. -/
structure Key where
  id : String
  pair : Address
  action : TradeAction
  amountIn : ℚ
  amountOut : ℚ
  blockNumber : Slot
  timestamp : Timestamp
  deriving DecidableEq

/-- The key of a row. -/
def key (row : SwapRecord) : Key :=
  ⟨row.id, row.pair, row.action, row.amountIn.value, row.amountOut.value, row.blockNumber,
    row.timestamp⟩

/-- Adds a row unless there is one with its key. -/
def addByKey (rows : List SwapRecord) (row : SwapRecord) : List SwapRecord :=
  if row.key ∈ rows.map key then rows else rows ++ [row]

/-- Adds rows one after the other. -/
def addAllByKey (rows added : List SwapRecord) : List SwapRecord := added.foldl addByKey rows

variable {rows added : List SwapRecord} {row : SwapRecord}

theorem mem_map_key_addByKey {key : Key} :
    key ∈ (addByKey rows row).map SwapRecord.key ↔
      key ∈ rows.map SwapRecord.key ∨ key = row.key := by
  rw [addByKey]
  split_ifs with known
  · constructor
    · exact .inl
    · rintro (member | rfl)
      · exact member
      · exact known
  · rw [List.map_append, List.mem_append, List.map_singleton, List.mem_singleton]

theorem mem_map_key_addAllByKey {key : Key} :
    key ∈ (addAllByKey rows added).map SwapRecord.key ↔
      key ∈ rows.map SwapRecord.key ∨ key ∈ added.map SwapRecord.key := by
  induction added generalizing rows with
  | nil => simp [addAllByKey]
  | cons row added ih =>
      rw [addAllByKey, List.foldl_cons, ← addAllByKey, ih, mem_map_key_addByKey, List.map_cons,
        List.mem_cons, or_assoc]

/-- Rows whose keys are known change nothing. -/
theorem addAllByKey_of_known (known : ∀ row ∈ added, row.key ∈ rows.map key) :
    addAllByKey rows added = rows := by
  induction added with
  | nil => rfl
  | cons row added ih =>
      rw [addAllByKey, List.foldl_cons, addByKey, if_pos (known row List.mem_cons_self)]
      exact ih fun row member => known row (List.mem_cons_of_mem _ member)

/-- Adding rows again changes nothing. -/
theorem addAllByKey_addAllByKey :
    addAllByKey (addAllByKey rows added) added = addAllByKey rows added :=
  addAllByKey_of_known fun _ member =>
    mem_map_key_addAllByKey.mpr (.inr (List.mem_map_of_mem member))

theorem addAllByKey_append {more : List SwapRecord} :
    addAllByKey rows (added ++ more) = addAllByKey (addAllByKey rows added) more :=
  List.foldl_append

theorem mem_addByKey {other : SwapRecord} :
    other ∈ addByKey rows row ↔ other ∈ rows ∨ other = row ∧ row.key ∉ rows.map key := by
  rw [addByKey]
  split_ifs with known
  · simp only [known, not_true, and_false, or_false]
  · rw [List.mem_append, List.mem_singleton, and_iff_left known]

/-- A row is there afterwards if it was there before, or if its key was new when its turn came. -/
theorem mem_addAllByKey :
    row ∈ addAllByKey rows added ↔
      row ∈ rows ∨ ∃ earlier later, added = earlier ++ row :: later ∧
        row.key ∉ rows.map key ∧ row.key ∉ earlier.map key := by
  induction added generalizing rows with
  | nil => simp [addAllByKey]
  | cons first added ih =>
      rw [addAllByKey, List.foldl_cons, ← addAllByKey, ih, mem_addByKey, or_assoc]
      refine or_congr_right ?_
      simp only [mem_map_key_addByKey, not_or]
      constructor
      · rintro (⟨rfl, new⟩ | ⟨earlier, later, rfl, ⟨new, other⟩, apart⟩)
        · exact ⟨[], added, rfl, new, List.not_mem_nil⟩
        · exact ⟨first :: earlier, later, rfl, new, List.not_mem_cons_of_ne_of_not_mem other apart⟩
      · rintro ⟨earlier, later, split, new, apart⟩
        rcases List.cons_eq_append_iff.mp split with ⟨rfl, whole⟩ | ⟨earlier, rfl, rfl⟩
        · cases whole
          exact .inl ⟨rfl, new⟩
        · rcases List.ne_and_not_mem_of_not_mem_cons apart with ⟨other, apart⟩
          exact .inr ⟨earlier, later, rfl, ⟨new, other⟩, apart⟩

theorem count_key_addByKey {key : Key} :
    ((addByKey rows row).map SwapRecord.key).count key =
      if key = row.key then max 1 ((rows.map SwapRecord.key).count key)
      else (rows.map SwapRecord.key).count key := by
  rw [addByKey]
  split_ifs with known same same
  · rw [same, Nat.max_eq_right (List.count_pos_iff.mpr known)]
  · rfl
  · rw [same, List.map_append, List.count_append, List.count_eq_zero.mpr known]
    simp
  · rw [List.map_append, List.count_append, List.map_singleton, List.count_singleton,
      if_neg (by simpa using Ne.symm same), Nat.add_zero]

/-- A key that is added has one row, unless it had more before. -/
theorem count_key_addAllByKey {key : Key} :
    ((addAllByKey rows added).map SwapRecord.key).count key =
      if key ∈ added.map SwapRecord.key then max 1 ((rows.map SwapRecord.key).count key)
      else (rows.map SwapRecord.key).count key := by
  induction added generalizing rows with
  | nil => rfl
  | cons row added ih =>
      rw [addAllByKey, List.foldl_cons, ← addAllByKey, ih, count_key_addByKey, List.map_cons]
      by_cases same : key = row.key
      · simp [same]
      · simp [same]

end SwapRecord

namespace Tables

theorem conflicts_iff {left right : SwapRecord} : Conflicts left right ↔ left.key = right.key := by
  simp only [Conflicts, SwapRecord.key, SwapRecord.Key.mk.injEq, Decimal.sameValue_iff]

theorem insertSwap_eq_addByKey : insertSwap = SwapRecord.addByKey := by
  funext rows row
  rw [insertSwap, SwapRecord.addByKey]
  congr 1
  simp [conflicts_iff]

end Tables

end SwapLedger
