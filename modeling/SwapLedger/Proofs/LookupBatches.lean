import Mathlib.Data.String.Basic
import SwapLedger.Lookups

/-!
# Batches of lookups

Adding addresses to a batch makes it the union of what was in it and what is added, and leaves it in
ascending order.
-/

namespace SwapLedger

namespace LookupBatch

variable {address other : Address} {addresses : List Address} {batch : LookupBatch}

@[simp]
theorem mem_insert : address ∈ batch.insert other ↔ address = other ∨ address ∈ batch := by
  induction batch with
  | nil => simp [insert]
  | cons first rest ih =>
      rw [insert]
      split_ifs with same before
      · subst same
        simp
      · simp
      · simp only [List.mem_cons, ih]
        tauto

/-- A batch holds what it held before and what has been put into it. -/
@[simp]
theorem mem_insertAll :
    address ∈ batch.insertAll addresses ↔ address ∈ addresses ∨ address ∈ batch := by
  induction addresses generalizing batch with
  | nil => simp [insertAll]
  | cons first rest ih =>
      change address ∈ (batch.insert first).insertAll rest ↔ _
      rw [ih, mem_insert, List.mem_cons]
      tauto

/-- Putting an address into a batch keeps it in ascending order, so that nothing is listed twice. -/
theorem pairwise_insert (ascending : batch.Pairwise (· < ·)) :
    (batch.insert address).Pairwise (· < ·) := by
  induction batch with
  | nil => simp [insert]
  | cons first rest ih =>
      rcases List.pairwise_cons.mp ascending with ⟨below, sorted⟩
      rw [insert]
      split_ifs with same before
      · exact ascending
      · refine List.pairwise_cons.mpr ⟨?_, ascending⟩
        rintro other (_ | ⟨_, later⟩)
        · exact before
        · exact before.trans (below other later)
      · refine List.pairwise_cons.mpr ⟨?_, ih sorted⟩
        intro other member
        rcases mem_insert.mp member with rfl | later
        · exact (lt_or_gt_of_ne same).resolve_left before
        · exact below other later

theorem pairwise_insertAll (ascending : batch.Pairwise (· < ·)) :
    (batch.insertAll addresses).Pairwise (· < ·) := by
  induction addresses generalizing batch with
  | nil => exact ascending
  | cons first rest ih => exact ih (pairwise_insert ascending)

/-- An address that is put into a batch makes it longer by one at most. -/
theorem length_insert_le : (batch.insert address).length ≤ batch.length + 1 := by
  induction batch with
  | nil => simp [insert]
  | cons first rest ih =>
      rw [insert]
      split_ifs
      · exact Nat.le_succ _
      · exact Nat.le_refl _
      · exact Nat.succ_le_succ ih

end LookupBatch

namespace Lookups

variable {lookups : Lookups} {address : Address}

@[simp]
theorem mem_batch : address ∈ lookups.batch ↔ address ∈ lookups.pending := by simp [batch]

end Lookups

end SwapLedger
