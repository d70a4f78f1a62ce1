import Mathlib.Data.List.InsertIdx
import Mathlib.Order.Monotone.Basic
import SwapLedger.Proofs.InvocationDepths
import SwapLedger.Proofs.Windows

/-!
# Insertion of an instruction

When an instruction is inserted into a group, everything behind it moves by one place. This file
follows what that does to numbered lists, to the ranges that instructions invoked and to positions.
If depths are recorded, the inserted instruction has to run at least as deep as the one that it is
put in front of: then it ends no range that did not end there anyway, and every range still has the
same ends, up to the move.
-/

namespace SwapLedger

/-! ## Places -/

/-- Where the element at a place of a list stands after an insertion at `place`. -/
def shifted (place index : Nat) : Nat := if index < place then index else index + 1

theorem strictMono_shifted (place : Nat) : StrictMono (shifted place) := by
  intro first second lt
  simp only [shifted]
  split_ifs <;> omega

/-- Every place but that of the insertion is one of an element that was there before. -/
theorem exists_shifted_eq {place index : Nat} (ne : index ≠ place) :
    ∃ old, shifted place old = index := by
  rcases Nat.lt_or_gt_of_ne ne with before | after
  · exact ⟨index, if_pos before⟩
  · refine ⟨index - 1, ?_⟩
    rw [shifted, if_neg (by omega), Nat.sub_add_cancel (by omega)]

section Lists

variable {α β : Type*} (list : List α) (place : Nat) (element : α)

theorem getElem?_insertIdx_shifted (index : Nat) :
    (list.insertIdx place element)[shifted place index]? = list[index]? := by
  rw [List.getElem?_insertIdx]
  by_cases before : index < place
  · rw [shifted, if_pos before, if_pos before]
  · rw [shifted, if_neg before, if_neg (by omega), if_neg (by omega), Nat.add_sub_cancel]

theorem zipIdx_insertIdx : (list.insertIdx place element).zipIdx =
    (list.zipIdx.map (Prod.map id (shifted place))).insertIdx place (element, place) := by
  apply List.ext_getElem?
  intro index
  by_cases inserted : index = place
  · subst inserted
    rw [List.getElem?_zipIdx, List.getElem?_insertIdx_self, List.getElem?_insertIdx_self,
      List.length_map, List.length_zipIdx]
    split_ifs <;> simp
  · rcases exists_shifted_eq inserted with ⟨old, rfl⟩
    rw [List.getElem?_zipIdx, getElem?_insertIdx_shifted, getElem?_insertIdx_shifted]
    cases stands : list[old]? <;> simp [stands]

variable {element}

theorem filterMap_insertIdx {read : α → Option β} (nothing : read element = none) :
    (list.insertIdx place element).filterMap read = list.filterMap read := by
  induction list generalizing place with
  | nil => cases place <;> simp [nothing]
  | cons head rest ih =>
      cases place with
      | zero => rw [List.insertIdx_zero, List.filterMap_cons_none nothing]
      | succ place => rw [List.insertIdx_succ_cons, List.filterMap_cons, List.filterMap_cons, ih]

/-- What is read off a numbered list is read off at shifted places, if the inserted element gives
nothing. -/
theorem filterMap_zipIdx_insertIdx {read : α × Nat → Option β}
    (nothing : read (element, place) = none) :
    (list.insertIdx place element).zipIdx.filterMap read =
      list.zipIdx.filterMap fun entry => read (entry.1, shifted place entry.2) := by
  rw [zipIdx_insertIdx, filterMap_insertIdx _ _ nothing, List.filterMap_map]
  rfl

end Lists

/-! ## Cuts -/

/-- Two numbers cut a list between the same elements before and after these are moved. -/
def SameCut (move : Nat → Nat) (cut other : Nat) : Prop := ∀ index, move index < other ↔ index < cut

section Cuts

variable {place cut : Nat}

theorem sameCut_id (cut : Nat) : SameCut id cut cut := fun _ => Iff.rfl

theorem sameCut_zero (move : Nat → Nat) : SameCut move 0 0 := fun index => by simp

theorem sameCut_succ {move : Nat → Nat} (ascending : StrictMono move) (index : Nat) :
    SameCut move (index + 1) (move index + 1) := by
  intro other
  rw [Nat.lt_succ_iff, Nat.lt_succ_iff, ascending.le_iff_le]

theorem sameCut_of_le (le : cut ≤ place) : SameCut (shifted place) cut cut := by
  intro index
  rw [shifted]
  split_ifs <;> omega

theorem sameCut_of_ge (ge : place ≤ cut) : SameCut (shifted place) cut (cut + 1) := by
  intro index
  rw [shifted]
  split_ifs <;> omega

end Cuts

/-! ## Ranges -/

namespace InvocationTree

variable {heights : List (Option Nat)} {place depth index first past : Nat} {inserted : Option Nat}

theorem runsDeeper_shifted :
    RunsDeeper (heights.insertIdx place inserted) depth (shifted place index) ↔
      RunsDeeper heights depth index := by
  rw [RunsDeeper, RunsDeeper, getElem?_insertIdx_shifted]

theorem runsDeeper_inserted (place_le : place ≤ heights.length) :
    RunsDeeper (heights.insertIdx place inserted) depth place ↔
      ∃ recorded, inserted = some recorded ∧ depth < recorded := by
  rw [RunsDeeper, List.getElem?_insertIdx_self, if_pos place_le]
  simp only [Option.some.injEq]

/-- A range is still the range at the moved cuts, if the inserted instruction lies inside just when
it ran deep enough. What stands at the new end stood at the old end. -/
theorem IsDeeperRange.insertIdx {otherFirst otherPast : Nat}
    (range : IsDeeperRange heights depth first past)
    (firstCut : SameCut (shifted place) first otherFirst)
    (pastCut : SameCut (shifted place) past otherPast) (first_le : otherFirst ≤ otherPast)
    (inside : otherFirst ≤ place → place ≤ otherPast →
      (place < otherPast ↔ RunsDeeper (heights.insertIdx place inserted) depth place)) :
    IsDeeperRange (heights.insertIdx place inserted) depth otherFirst otherPast where
  first_le := first_le
  deeper := by
    intro index after before
    by_cases isInserted : index = place
    · subst isInserted
      exact (inside after before.le).mp before
    · rcases exists_shifted_eq isInserted with ⟨old, rfl⟩
      have old_lt := (pastCut old).mp before
      have first_le_old : first ≤ old := by
        rw [← Nat.not_lt, ← firstCut old]
        omega
      exact runsDeeper_shifted.mpr (range.deeper old first_le_old old_lt)
  ends := by
    by_cases isInserted : otherPast = place
    · subst isInserted
      rw [← inside first_le (Nat.le_refl _)]
      exact Nat.lt_irrefl _
    · rcases exists_shifted_eq isInserted with ⟨old, rfl⟩
      have past_le : past ≤ old := by
        rw [← Nat.not_lt, ← pastCut old]
        exact Nat.lt_irrefl _
      have old_le : old ≤ past := by
        have notBefore : ¬shifted place past < shifted place old := by
          rw [pastCut past]
          exact Nat.lt_irrefl _
        rw [(strictMono_shifted place).lt_iff_lt] at notBefore
        exact Nat.le_of_not_lt notBefore
      rw [runsDeeper_shifted, Nat.le_antisymm old_le past_le]
      exact range.ends

/-- A depth may be inserted at a place: it is missing as all others are, or all others are recorded
and it is at least the depth that it is put in front of. -/
def Admits (heights : List (Option Nat)) (place : Nat) (inserted : Option Nat) : Prop :=
  (∀ height ∈ heights, height = none) ∧ inserted = none ∨
    (∀ height ∈ heights, height ≠ none) ∧ ∀ next, heights[place]? = some (some next) →
      ∃ recorded, inserted = some recorded ∧ next ≤ recorded

/-- Where every depth is recorded, what an instruction invoked is cut out between the same ones
after an insertion. Its range ends before the insertion, or at it as it did before, or it goes on
beyond the insertion or lies behind it. -/
theorem exists_descendants_of_recorded (place_le : place ≤ heights.length)
    (stands : heights[index]? = some (some depth))
    (atLeast : ∀ next, heights[place]? = some (some next) →
      ∃ recorded, inserted = some recorded ∧ next ≤ recorded)
    (range : IsDeeperRange heights depth (index + 1) past) :
    ∃ otherPast, (build (heights.insertIdx place inserted)).descendants (shifted place index) =
        (shifted place index + 1, otherPast) ∧
      SameCut (shifted place) past otherPast := by
  have otherStands : (heights.insertIdx place inserted)[shifted place index]? =
      some (some depth) := by
    rw [getElem?_insertIdx_shifted, stands]
  have firstCut := sameCut_succ (strictMono_shifted place) index
  have index_lt := range.first_le
  simp only [descendants_build_eq_iff otherStands]
  rcases Nat.lt_or_ge past place with before | notBefore
  · have pastCut := sameCut_of_le before.le
    have first_lt := (pastCut index).mpr index_lt
    exact ⟨past, range.insertIdx firstCut pastCut first_lt (by omega), pastCut⟩
  · by_cases taken : index < place →
        RunsDeeper (heights.insertIdx place inserted) depth place
    · have pastCut := sameCut_of_ge notBefore
      have first_lt := (pastCut index).mpr index_lt
      refine ⟨past + 1, range.insertIdx firstCut pastCut first_lt ?_, pastCut⟩
      intro first_le _
      have index_before : index < place := by
        rw [shifted] at first_le
        split_ifs at first_le <;> omega
      exact iff_of_true (Nat.lt_succ_of_le notBefore) (taken index_before)
    · rw [Classical.not_imp] at taken
      rcases taken with ⟨index_before, notDeeper⟩
      have past_eq : past = place := by
        by_contra ne
        rcases range.deeper place index_before (by omega) with ⟨next, nextStands, depth_lt⟩
        rcases atLeast next nextStands with ⟨recorded, rfl, next_le⟩
        exact notDeeper ((runsDeeper_inserted place_le).mpr
          ⟨recorded, rfl, depth_lt.trans_le next_le⟩)
      subst past_eq
      have pastCut := sameCut_of_le (Nat.le_refl past)
      have first_lt := (pastCut index).mpr index_lt
      refine ⟨past, range.insertIdx firstCut pastCut first_lt ?_, pastCut⟩
      exact fun _ _ => iff_of_false (Nat.lt_irrefl past) notDeeper

/-- Where no depth is recorded, and none is inserted, what an instruction invoked ends with the
group. -/
theorem descendants_of_unknown (place_le : place ≤ heights.length)
    (stands : heights[index]? = some none) :
    (build heights).descendants index = (index + 1, heights.length) ∧
      (build (heights.insertIdx place none)).descendants (shifted place index) =
        (shifted place index + 1, heights.length + 1) := by
  have index_lt := (List.getElem?_eq_some_iff.mp stands).1
  have unknown : (build heights).height? index = none := by simp [height?, build, stands]
  have otherUnknown : (build (heights.insertIdx place none)).height? (shifted place index) =
      none := by
    simp [height?, build, getElem?_insertIdx_shifted, stands]
  have shifted_le : shifted place index + 1 ≤ heights.length + 1 := by
    rw [shifted]
    split_ifs <;> omega
  rw [descendants_of_height?_eq_none _ unknown, descendants_of_height?_eq_none _ otherUnknown,
    length_parents_build, length_parents_build, List.length_insertIdx_of_le_length place_le,
    Nat.min_eq_left index_lt, Nat.min_eq_left shifted_le]
  exact ⟨rfl, rfl⟩

/-- What an instruction invoked is cut out between the same ones after an insertion. -/
theorem exists_descendants_insertIdx (admits : Admits heights place inserted)
    (place_le : place ≤ heights.length) (index_lt : index < heights.length)
    (range : (build heights).descendants index = (first, past)) :
    ∃ otherFirst otherPast,
      (build (heights.insertIdx place inserted)).descendants (shifted place index) =
        (otherFirst, otherPast) ∧
      SameCut (shifted place) first otherFirst ∧ SameCut (shifted place) past otherPast := by
  have first_eq := (build heights).descendants_fst index
  rw [range, length_parents_build, Nat.min_eq_left index_lt] at first_eq
  subst first_eq
  have firstCut := sameCut_succ (strictMono_shifted place) index
  have stands : heights[index]? = some heights[index] := List.getElem?_eq_getElem index_lt
  rcases admits with ⟨unknown, rfl⟩ | ⟨known, atLeast⟩
  · rw [unknown _ (List.getElem_mem index_lt)] at stands
    rcases descendants_of_unknown place_le stands with ⟨whole, otherWhole⟩
    rw [range, Prod.mk.injEq] at whole
    refine ⟨_, _, otherWhole, firstCut, ?_⟩
    rw [whole.2]
    exact sameCut_of_ge place_le
  · rcases Option.ne_none_iff_exists'.mp (known _ (List.getElem_mem index_lt)) with
      ⟨depth, recorded⟩
    rw [recorded] at stands
    rcases exists_descendants_of_recorded place_le stands atLeast
      ((descendants_build_eq_iff stands).mp range) with ⟨otherPast, otherRange, pastCut⟩
    exact ⟨_, otherPast, otherRange, firstCut, pastCut⟩

end InvocationTree

/-! ## Positions -/

/-- Where the instruction at a place of a group stands after an insertion at `place` of the group
under the top-level instruction `outer`. -/
def shiftedUnder (outer place group : Nat) : Nat → Nat :=
  if group = outer then shifted place else id

theorem strictMono_shiftedUnder (outer place group : Nat) :
    StrictMono (shiftedUnder outer place group) := by
  rw [shiftedUnder]
  split_ifs
  · exact strictMono_shifted place
  · exact strictMono_id

namespace Position

/-- The position that an instruction has after an insertion. -/
def shift (outer place : Nat) (position : Position) : Position :=
  { position with inner := position.inner.map (shiftedUnder outer place position.outer) }

variable {outer place : Nat}

@[simp]
theorem outer_shift (position : Position) : (position.shift outer place).outer = position.outer :=
  rfl

/-- An insertion keeps the order of execution. -/
theorem strictMono_shift (outer place : Nat) : StrictMono (shift outer place) := by
  rintro ⟨group, left⟩ ⟨_, right⟩ lt
  rw [lt_iff] at lt ⊢
  refine lt.imp_right ?_
  rintro ⟨rfl, rank_lt⟩
  refine ⟨rfl, ?_⟩
  have ascending := strictMono_shiftedUnder outer place group
  cases right with
  | none => simp at rank_lt
  | some rightIndex =>
      cases left with
      | none => simp [shift]
      | some leftIndex => simpa [shift, ascending.lt_iff_lt] using rank_lt

/-- A cut of a group is a cut of all positions. -/
theorem shift_lt_invoked_iff {group cut other : Nat}
    (sameCut : SameCut (shiftedUnder outer place group) cut other) (position : Position) :
    position.shift outer place < invoked group other ↔ position < invoked group cut := by
  rw [lt_iff, lt_iff]
  refine or_congr_right (and_congr_right fun sameOuter => ?_)
  rw [outer_shift, outer_invoked] at sameOuter
  rw [shift, sameOuter]
  cases position.inner with
  | none => simp
  | some index => simpa using sameCut index

end Position

end SwapLedger
