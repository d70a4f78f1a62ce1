import Mathlib.Order.Interval.Finset.Nat
import SwapLedger.Proofs.InvocationDepths

/-!
# Invocation subtrees

The range of an instruction is its subtree. A walk along parent links only ever leads back, so it
ends, and where all depths are recorded it passes through an instruction just if it starts in the
range of that instruction. Whatever is recorded, any two ranges nest or are apart.
-/

namespace SwapLedger

namespace InvocationTree

/-- The place to which a number of parent links lead. -/
def walk (tree : InvocationTree) : (steps place : Nat) → Option Nat
  | 0, place => some place
  | steps + 1, place => (tree.parent? place).bind (tree.walk steps)

/-- The places in the range of an instruction. -/
def range (tree : InvocationTree) (index : Nat) : Finset Nat :=
  Finset.Ico (tree.descendants index).1 (tree.descendants index).2

variable {tree : InvocationTree} {heights : List (Option Nat)}
  {steps place index reached ancestor fuel depth : Nat}

/-! ## Walks -/

/-- A walk leads back by one place at least for each of its links. -/
theorem add_le_of_walk (walks : (build heights).walk steps place = some reached) :
    reached + steps ≤ place := by
  induction steps generalizing place with
  | zero => exact (Option.some.inj walks).ge
  | succ steps ih =>
      rcases Option.bind_eq_some_iff.mp walks with ⟨parent, isParent, further⟩
      have parent_lt := parent?_lt isParent
      have rest := ih further
      omega

theorem lt_length_of_walk (walks : (build heights).walk (steps + 1) place = some reached) :
    place < heights.length := by
  rcases Option.bind_eq_some_iff.mp walks with ⟨parent, isParent, _⟩
  rw [← length_parents_build heights]
  exact (List.getElem?_eq_some_iff.mp (Option.join_eq_some_iff.mp isParent)).1

/-- A walk ends, at the latest once it has taken all places before its start. -/
theorem walk_eq_none (heights : List (Option Nat)) (place : Nat) :
    (build heights).walk (place + 1) place = none := by
  rw [Option.eq_none_iff_forall_ne_some]
  intro reached walks
  have tooFar := add_le_of_walk walks
  omega

theorem reaches_iff : tree.reaches ancestor fuel place ↔
    ∃ steps < fuel, tree.walk (steps + 1) place = some ancestor := by
  induction fuel generalizing place with
  | zero => simp [reaches]
  | succ fuel ih =>
      cases isParent : tree.parent? place with
      | none => simp [reaches, walk, isParent]
      | some parent =>
          simp only [reaches, isParent, Bool.or_eq_true, beq_iff_eq, ih, walk, Option.bind_some]
          constructor
          · rintro (rfl | ⟨steps, steps_lt, further⟩)
            · exact ⟨0, Nat.zero_lt_succ fuel, rfl⟩
            · exact ⟨steps + 1, Nat.succ_lt_succ steps_lt, further⟩
          · rintro ⟨steps, steps_lt, walks⟩
            cases steps with
            | zero => exact Or.inl (Option.some.inj walks)
            | succ steps => exact Or.inr ⟨steps, Nat.lt_of_succ_lt_succ steps_lt, walks⟩

/-- The bound on the length of a chain of parents cuts no walk short. -/
theorem isInvokedBy_iff_exists_walk : (build heights).isInvokedBy place ancestor ↔
    ∃ steps, (build heights).walk (steps + 1) place = some ancestor := by
  rw [isInvokedBy, reaches_iff, length_parents_build]
  constructor
  · rintro ⟨steps, _, walks⟩
    exact ⟨steps, walks⟩
  · rintro ⟨steps, walks⟩
    have place_lt := lt_length_of_walk walks
    have short := add_le_of_walk walks
    exact ⟨steps, by omega, walks⟩

/-! ## Ranges and walks -/

theorem mem_range : place ∈ tree.range index ↔
    (tree.descendants index).1 ≤ place ∧ place < (tree.descendants index).2 :=
  Finset.mem_Ico

theorem exists_depth (complete : none ∉ heights) (index_lt : index < heights.length) :
    ∃ depth, heights[index]? = some (some depth) := by
  rw [List.getElem?_eq_getElem index_lt]
  cases known : heights[index] with
  | none => exact absurd (known ▸ List.getElem_mem index_lt) complete
  | some depth => exact ⟨depth, rfl⟩

theorem runsDeeper_iff_lt {recorded : Nat} (stands : heights[index]? = some (some recorded)) :
    RunsDeeper heights depth index ↔ depth < recorded := by
  simp [RunsDeeper, stands]

theorem eq_length_or_stands (index_le : index ≤ heights.length)
    (notDeeper : ¬RunsDeeper heights depth index) :
    index = heights.length ∨ heights[index]? = some none ∨
      ∃ recorded ≤ depth, heights[index]? = some (some recorded) := by
  cases stands : heights[index]? with
  | none => exact Or.inl (index_le.antisymm (List.getElem?_eq_none_iff.mp stands))
  | some height =>
      cases height with
      | none => exact Or.inr (Or.inl rfl)
      | some recorded =>
          rw [runsDeeper_iff_lt stands] at notDeeper
          exact Or.inr (Or.inr ⟨recorded, Nat.le_of_not_lt notDeeper, rfl⟩)

theorem exists_isDeeperRange (stands : heights[index]? = some (some depth)) :
    ∃ past ≤ heights.length, (build heights).descendants index = (index + 1, past) ∧
      IsDeeperRange heights depth (index + 1) past := by
  have index_lt := (List.getElem?_eq_some_iff.mp stands).1
  have first_eq := (build heights).descendants_fst index
  have past_le := (build heights).descendants_snd_le index
  rw [length_parents_build] at first_eq past_le
  rw [Nat.min_eq_left index_lt] at first_eq
  have range_eq : (build heights).descendants index =
      (index + 1, ((build heights).descendants index).2) := Prod.ext first_eq rfl
  exact ⟨_, past_le, range_eq, (descendants_build_eq_iff stands).mp range_eq⟩

/-- Where all depths are recorded, everything from behind the parent of an instruction up to the
instruction ran deeper than the parent. A gap in the depths could hide one that ran no deeper. -/
theorem runsDeeper_of_parent? (complete : none ∉ heights) {parent : Nat}
    (isParent : (build heights).parent? place = some parent) :
    ∃ depth, heights[parent]? = some (some depth) ∧
      ∀ between, parent < between → between ≤ place → RunsDeeper heights depth between := by
  have nearest := isParent_parent? heights place
  rw [isParent, IsParent] at nearest
  cases placeStands : heights[place]?.join with
  | none => simp [placeStands] at nearest
  | some placeDepth =>
      rw [placeStands] at nearest
      rcases nearest with ⟨_, ⟨depth, depth_lt, stands⟩, notLess⟩
      have placeKnown := Option.join_eq_some_iff.mp placeStands
      have place_lt := (List.getElem?_eq_some_iff.mp placeKnown).1
      refine ⟨depth, stands, fun between after between_le => ?_⟩
      rcases Nat.lt_or_eq_of_le between_le with before | rfl
      · rcases exists_depth complete (before.trans place_lt) with ⟨recorded, betweenStands⟩
        have placeDepth_le := notLess between before after recorded betweenStands
        exact ⟨recorded, betweenStands, depth_lt.trans_le placeDepth_le⟩
      · exact ⟨placeDepth, placeKnown, depth_lt⟩

/-- Where all depths are recorded, everything from behind the end of a walk up to its start ran
deeper than the instruction at its end. The parent that the first link leads to parts what has to
run deeper. -/
theorem runsDeeper_of_walk (complete : none ∉ heights)
    (stands : heights[index]? = some (some depth))
    (walks : (build heights).walk (steps + 1) place = some index) :
    ∀ between, index < between → between ≤ place → RunsDeeper heights depth between := by
  induction steps generalizing place with
  | zero =>
      rcases Option.bind_eq_some_iff.mp walks with ⟨parent, isParent, same⟩
      rw [walk, Option.some.injEq] at same
      subst same
      rcases runsDeeper_of_parent? complete isParent with ⟨recorded, parentStands, deeper⟩
      rw [stands, Option.some.injEq, Option.some.injEq] at parentStands
      exact parentStands ▸ deeper
  | succ steps ih =>
      rcases Option.bind_eq_some_iff.mp walks with ⟨parent, isParent, further⟩
      rcases runsDeeper_of_parent? complete isParent with ⟨recorded, parentStands, deeper⟩
      have index_lt := add_le_of_walk further
      have parentDeeper := ih further parent (by omega) (Nat.le_refl parent)
      have depth_lt := (runsDeeper_iff_lt parentStands).mp parentDeeper
      intro between after between_le
      rcases Nat.lt_or_ge parent between with behind | upTo
      · rcases deeper between behind between_le with ⟨betweenDepth, betweenStands, recorded_lt⟩
        exact ⟨betweenDepth, betweenStands, depth_lt.trans recorded_lt⟩
      · exact ih further between after upTo

/-- Where all depths are recorded, the range of an instruction is all that it invoked. A walk from
behind the range would pass over the instruction that ends it, and behind the group there are
neither ranges nor links. -/
theorem mem_range_iff_isInvokedBy (complete : none ∉ heights) :
    place ∈ (build heights).range index ↔ (build heights).isInvokedBy place index := by
  rw [mem_range]
  by_cases index_lt : index < heights.length
  · rcases exists_depth complete index_lt with ⟨depth, stands⟩
    rcases exists_isDeeperRange stands with ⟨past, past_le, range_eq, isDeeperRange⟩
    simp only [range_eq]
    constructor
    · rintro ⟨first_le, place_lt⟩
      refine (isInvokedBy_iff stands first_le fun between first last =>
        isDeeperRange.deeper between first (last.trans place_lt)).mpr ?_
      exact isDeeperRange.deeper place first_le place_lt
    · intro invoked
      rcases isInvokedBy_iff_exists_walk.mp invoked with ⟨steps, walks⟩
      have after := add_le_of_walk walks
      refine ⟨by omega, Nat.lt_of_not_le fun past_le => isDeeperRange.ends ?_⟩
      exact runsDeeper_of_walk complete stands walks past isDeeperRange.first_le past_le
  · have first_eq := (build heights).descendants_fst index
    have past_le := (build heights).descendants_snd_le index
    rw [length_parents_build] at first_eq past_le
    constructor
    · rintro ⟨first_le, place_lt⟩
      omega
    · intro invoked
      rcases isInvokedBy_iff_exists_walk.mp invoked with ⟨steps, walks⟩
      have place_lt := lt_length_of_walk walks
      have index_lt := add_le_of_walk walks
      omega

/-- What a later instruction invoked was invoked by an earlier one, too, if the later one itself
was, and else has nothing in common with what the earlier one invoked. -/
theorem range_subset_or_disjoint {later : Nat} (before : index < later) :
    (build heights).range later ⊆ (build heights).range index ∨
      Disjoint ((build heights).range index) ((build heights).range later) := by
  have first_eq := (build heights).descendants_fst index
  have laterFirst_eq := (build heights).descendants_fst later
  have past_le := (build heights).descendants_snd_le index
  by_cases invoked : later ∈ (build heights).range index
  · left
    intro place member
    have laterPast_le := descendants_snd_le_of_invoked (mem_range.mp invoked)
    rw [mem_range] at member ⊢
    omega
  · right
    rw [Finset.disjoint_left]
    intro place member laterMember
    rw [mem_range] at invoked member laterMember
    omega

/-- The range of an instruction is its subtree. Where no depth is recorded it is the rest of the
group, and else it ends before the first instruction that has no recorded depth or ran no deeper.
Where all depths are recorded, it holds those from which parent links lead to the instruction. Any
two ranges nest or are apart, and following parent links always ends. -/
theorem ranges_are_subtrees (heights : List (Option Nat)) :
    (∀ index, heights[index]?.join = none → (build heights).descendants index =
      (min (index + 1) heights.length, heights.length)) ∧
      (∀ index depth, heights[index]? = some (some depth) → ∃ past ≤ heights.length,
        (build heights).descendants index = (index + 1, past) ∧
          (∀ between, index < between → between < past → RunsDeeper heights depth between) ∧
          (past = heights.length ∨ heights[past]? = some none ∨
            ∃ recorded ≤ depth, heights[past]? = some (some recorded))) ∧
      (none ∉ heights → ∀ index place, place ∈ (build heights).range index ↔
        ∃ steps, (build heights).walk (steps + 1) place = some index) ∧
      (∀ index other, (build heights).range index ⊆ (build heights).range other ∨
        (build heights).range other ⊆ (build heights).range index ∨
        Disjoint ((build heights).range index) ((build heights).range other)) ∧
      ∀ place, (build heights).walk (place + 1) place = none ∧
        ∀ ancestor, (build heights).isInvokedBy place ancestor ↔
          ∃ steps, (build heights).walk (steps + 1) place = some ancestor := by
  refine ⟨?_, ?_, ?_, ?_, ?_⟩
  · intro index unknown
    rw [(build heights).descendants_of_height?_eq_none unknown, length_parents_build]
  · intro index depth stands
    rcases exists_isDeeperRange stands with ⟨past, past_le, range_eq, isDeeperRange⟩
    exact ⟨past, past_le, range_eq, isDeeperRange.deeper,
      eq_length_or_stands past_le isDeeperRange.ends⟩
  · intro complete index place
    rw [mem_range_iff_isInvokedBy complete, isInvokedBy_iff_exists_walk]
  · intro index other
    rcases Nat.lt_trichotomy index other with before | rfl | after
    · exact Or.inr (range_subset_or_disjoint before)
    · exact Or.inl (Finset.Subset.refl _)
    · rcases range_subset_or_disjoint after with nested | apart
      · exact Or.inl nested
      · exact Or.inr (Or.inr apart.symm)
  · exact fun place => ⟨walk_eq_none heights place, fun ancestor => isInvokedBy_iff_exists_walk⟩

/-- A router that invokes two exchanges, the first of which moves two transfers, and a payment
after it. -/
def routerHeights : List (Option Nat) := [some 2, some 3, some 4, some 4, some 3, some 2]

/-- The same, with the depth of the second transfer missing. -/
def patchyHeights : List (Option Nat) := [some 2, some 3, some 4, none, some 3, some 2]

/-- Where all depths are told, the range of the router is what it invoked, and the first exchange
has its two transfers. The gap ends both ranges early, and has all the rest as its own range. -/
theorem ranges_are_subtrees_router :
    (none ∉ routerHeights ∧ ∀ place, place ∈ (build routerHeights).range 0 ↔
      ∃ steps, (build routerHeights).walk (steps + 1) place = some 0) ∧
      (build routerHeights).descendants 0 = (1, 5) ∧
      (build routerHeights).descendants 1 = (2, 4) ∧
      (∃ past ≤ 6, (build patchyHeights).descendants 1 = (2, past) ∧
        (∀ between, 1 < between → between < past → RunsDeeper patchyHeights 3 between) ∧
        (past = 6 ∨ patchyHeights[past]? = some none ∨
          ∃ recorded ≤ 3, patchyHeights[past]? = some (some recorded))) ∧
      (build patchyHeights).descendants 1 = (2, 3) ∧
      (build patchyHeights).descendants 3 = (4, 6) := by
  have complete : none ∉ routerHeights := by decide
  rcases ranges_are_subtrees routerHeights with ⟨_, _, walks, _⟩
  rcases ranges_are_subtrees patchyHeights with ⟨unknown, known, _⟩
  exact ⟨⟨complete, walks complete 0⟩, by decide, by decide, known 1 3 rfl, by decide,
    unknown 3 rfl⟩

end InvocationTree

end SwapLedger
