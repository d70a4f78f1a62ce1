import SwapLedger.InvocationTree

/-!
# Invocation ranges

The instructions that one invoked are a range of its group, whatever depths are recorded: it starts
right after the instruction and never leaves the group.
-/

namespace SwapLedger

namespace InvocationTree

@[simp]
theorem length_parentsFrom (heights : List (Option Nat)) (index : Nat) (opened : List (Nat × Nat)) :
    (parentsFrom index opened heights).length = heights.length := by
  induction heights generalizing index opened with
  | nil => rfl
  | cons height rest ih => cases height <;> simp [parentsFrom, ih]

@[simp]
theorem length_parents_build (heights : List (Option Nat)) :
    (build heights).parents.length = heights.length := by
  simp [build]

variable (tree : InvocationTree)

/-- Counting stops at the end of the group. -/
theorem add_invokedCount_le (ancestor fuel : Nat) {start : Nat}
    (start_le : start ≤ tree.parents.length) :
    start + tree.invokedCount ancestor fuel start ≤ tree.parents.length := by
  induction fuel generalizing start with
  | zero => simpa [invokedCount] using start_le
  | succ fuel ih =>
      rw [invokedCount]
      split
      · rename_i counted
        have rest_le : start + 1 + _ ≤ _ := ih (Nat.succ_le_of_lt counted.1)
        omega
      · simpa using start_le

/-- The range that an instruction invoked starts right after it. -/
@[simp]
theorem descendants_fst (index : Nat) :
    (tree.descendants index).1 = min (index + 1) tree.parents.length := by
  rw [descendants]
  split <;> rfl

theorem descendants_fst_le_snd (index : Nat) :
    (tree.descendants index).1 ≤ (tree.descendants index).2 := by
  rw [descendants]
  split
  · exact Nat.min_le_right _ _
  · exact Nat.le_add_right _ _

theorem descendants_snd_le (index : Nat) :
    (tree.descendants index).2 ≤ tree.parents.length := by
  rw [descendants]
  split
  · exact Nat.le_refl _
  · exact tree.add_invokedCount_le index _ (Nat.min_le_right _ _)

/-- Where no depth is recorded, all that follows was invoked. -/
theorem descendants_of_height?_eq_none {index : Nat} (unknown : tree.height? index = none) :
    tree.descendants index = (min (index + 1) tree.parents.length, tree.parents.length) := by
  rw [descendants, unknown]

end InvocationTree

end SwapLedger
