import Mathlib.Order.Defs.LinearOrder
import Mathlib.Order.Basic
import SwapLedger.Transaction

/-!
# Execution order

Positions are linearly ordered: by the place of the top-level instruction, and below one top-level
instruction with that instruction first and those it invoked in the order of their group. This file
gives that order its laws, and says which instruction of a transaction stands at a position.
-/

namespace SwapLedger

/-- Places grow along a numbered list. -/
theorem pairwise_snd_zipIdx {α : Type*} (list : List α) (first : Nat) :
    (list.zipIdx first).Pairwise fun earlier later => earlier.2 < later.2 := by
  rw [← List.pairwise_map , List.zipIdx_map_snd]
  exact List.pairwise_lt_range'

namespace Position

variable {left right : Position} {outer inner other : Nat}

@[simp]
theorem rank_none : rank none = 0 := rfl

@[simp]
theorem rank_some (index : Nat) : rank (some index) = index + 1 := rfl

@[simp]
theorem outer_topLevel (outer : Nat) : (topLevel outer).outer = outer := rfl

@[simp]
theorem inner_topLevel (outer : Nat) : (topLevel outer).inner = none := rfl

@[simp]
theorem outer_invoked (outer inner : Nat) : (invoked outer inner).outer = outer := rfl

@[simp]
theorem inner_invoked (outer inner : Nat) : (invoked outer inner).inner = some inner := rfl

/-- Positions are ordered by their instruction, and within it what it invoked comes behind it, in
order. -/
theorem lt_iff : left < right ↔
    left.outer < right.outer ∨
      left.outer = right.outer ∧ rank left.inner < rank right.inner := Iff.rfl

theorem le_iff_not_lt : left ≤ right ↔ ¬right < left := Iff.rfl

theorem rank_injective {first second : Option Nat} (same : rank first = rank second) :
    first = second := by
  cases first <;> cases second <;> simp_all

/-- Positions in execution order. -/
instance : LinearOrder Position where
  le := (· ≤ ·)
  lt := (· < ·)
  le_refl position := by simp [le_iff_not_lt, lt_iff]
  le_trans first second third := by
    simp only [le_iff_not_lt, lt_iff]
    omega
  lt_iff_le_not_ge left right := by
    simp only [le_iff_not_lt, lt_iff]
    omega
  le_antisymm left right := by
    simp only [le_iff_not_lt, lt_iff]
    intro notAfter notBefore
    have sameOuter : left.outer = right.outer := by omega
    have sameInner : left.inner = right.inner := rank_injective (by omega)
    cases left
    cases right
    simp_all
  le_total left right := by
    simp only [le_iff_not_lt, lt_iff]
    omega
  toDecidableLE := fun left right => inferInstanceAs (Decidable (left ≤ right))
  toDecidableEq := inferInstance
  toDecidableLT := fun left right => inferInstanceAs (Decidable (left < right))

/-- Positions under different top-level instructions are ordered by those. -/
theorem lt_of_outer_lt (before : left.outer < right.outer) : left < right := Or.inl before

/-- An instruction comes before all that it invoked. -/
theorem topLevel_lt_invoked (outer inner : Nat) : topLevel outer < invoked outer inner := by
  simp [lt_iff]

@[simp]
theorem invoked_lt_invoked : invoked outer inner < invoked outer other ↔ inner < other := by
  simp [lt_iff]

/-- What comes before an instruction belongs to an earlier one. -/
theorem lt_topLevel_iff {position : Position} :
    position < topLevel outer ↔ position.outer < outer := by
  simp [lt_iff]

/-- Instructions come in the order of their numbers. -/
theorem topLevel_le_topLevel (le : outer ≤ other) : topLevel outer ≤ topLevel other := by
  simp only [le_iff_not_lt, lt_iff, outer_topLevel, inner_topLevel]
  omega

/-- What an instruction invoked comes in the order of the numbers. -/
theorem invoked_le_invoked (le : inner ≤ other) : invoked outer inner ≤ invoked outer other := by
  simpa [le_iff_not_lt] using le

/-- What an instruction invoked comes before the next instruction. -/
theorem invoked_lt_next (outer inner : Nat) : invoked outer inner < topLevel (outer + 1) :=
  lt_of_outer_lt (Nat.lt_succ_self outer)

/-- Between two invoked instructions of one group there are only others of that group. -/
theorem exists_invoked_of_between {position : Position}
    (notBefore : ¬position < invoked outer inner) (before : position < invoked outer other) :
    ∃ index, inner ≤ index ∧ index < other ∧ position = invoked outer index := by
  rcases position with ⟨place, _ | index⟩
  · simp only [lt_iff, outer_invoked, inner_invoked, rank_none, rank_some] at notBefore before
    omega
  · simp only [lt_iff, outer_invoked, inner_invoked, rank_some] at notBefore before
    have sameOuter : place = outer := by omega
    exact ⟨index, by omega, by omega, by rw [sameOuter, invoked]⟩

/-- After a top-level instruction and under it there are only those that it invoked. -/
theorem exists_invoked_of_after {position : Position} (same : position.outer = outer)
    (after : topLevel outer < position) : ∃ index, position = invoked outer index := by
  rcases position with ⟨place, _ | index⟩
  · simp only [lt_iff, outer_topLevel, inner_topLevel] at after same
    omega
  · exact ⟨index, by rw [invoked, ← same]⟩

end Position

namespace Transaction

variable (transaction : Transaction)

/-- The instruction at a position: a top-level one, or one of the first group that names it. -/
def instructionAt? (position : Position) : Option Instruction :=
  match position.inner with
  | none => transaction.instructions[position.outer]?
  | some index =>
    if position.outer < transaction.instructions.length then
      (transaction.invokedBy position.outer)[index]?
    else none

/-- An instruction that is found at a position is the one of its number, or stands at its place
among those invoked. -/
theorem instructionAt?_eq_some {position : Position} {instruction : Instruction} :
    transaction.instructionAt? position = some instruction ↔
      (∃ outer, position = .topLevel outer ∧ transaction.instructions[outer]? = some instruction) ∨
        ∃ outer index, position = .invoked outer index ∧
          outer < transaction.instructions.length ∧
          (transaction.invokedBy outer)[index]? = some instruction := by
  rcases position with ⟨outer, _ | index⟩
  · simp [instructionAt?, Position.topLevel, Position.invoked]
  · simp only [instructionAt?, Position.topLevel, Position.invoked, Position.mk.injEq,
      Option.some.injEq, reduceCtorEq, and_false, false_and, exists_false, false_or,
      Option.ite_none_right_eq_some]
    constructor
    · intro stands
      exact ⟨outer, index, ⟨rfl, rfl⟩, stands⟩
    · rintro ⟨_, _, ⟨rfl, rfl⟩, stands⟩
      exact stands

theorem instructionAt?_invoked_eq_some {outer index : Nat} {instruction : Instruction} :
    transaction.instructionAt? (.invoked outer index) = some instruction ↔
      outer < transaction.instructions.length ∧
        (transaction.invokedBy outer)[index]? = some instruction := by
  change (if outer < transaction.instructions.length then
    (transaction.invokedBy outer)[index]? else none) = some instruction ↔ _
  exact Option.ite_none_right_eq_some

/-- Instructions are found only under numbers that the transaction has. -/
theorem outer_lt_of_instructionAt? {transaction : Transaction} {position : Position}
    {instruction : Instruction} (stands : transaction.instructionAt? position = some instruction) :
    position.outer < transaction.instructions.length := by
  rcases transaction.instructionAt?_eq_some.mp stands with
    ⟨outer, rfl, stands⟩ | ⟨outer, index, rfl, outer_lt, _⟩
  · exact (List.getElem?_eq_some_iff.mp stands).1
  · exact outer_lt

end Transaction

end SwapLedger
