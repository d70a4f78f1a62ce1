import Mathlib.Data.List.TakeWhile
import Mathlib.Order.Bounds.Basic
import SwapLedger.Proofs.InvocationRanges

/-!
# Invocation depths

Where the depth of an instruction is recorded, what it invoked are the instructions right after it
that ran deeper, up to the first one that did not or of which nothing is known. The chains of
parents, by which the tree decides this, are found with a stack of open invocations. Its invariant:
for every depth, the innermost entry that is less deep is the nearest such instruction so far.
-/

namespace SwapLedger

namespace InvocationTree

variable {heights : List (Option Nat)} {opened : List (Nat × Nat)}
  {place depth index ancestor start fuel : Nat}

/-- An instruction is known to have run deeper than `depth`. -/
def RunsDeeper (heights : List (Option Nat)) (depth index : Nat) : Prop :=
  ∃ recorded, heights[index]? = some (some recorded) ∧ depth < recorded

/-! ## Parents -/

/-- The nearest instruction before a place that ran less deep than `depth`, or that there is
none. -/
def IsNearest (heights : List (Option Nat)) (place depth : Nat) : Option Nat → Prop
  | none => ∀ index < place, ∀ recorded,
      heights[index]? = some (some recorded) → depth ≤ recorded
  | some nearest => nearest < place ∧
      (∃ recorded < depth, heights[nearest]? = some (some recorded)) ∧
      ∀ index < place, nearest < index → ∀ recorded,
        heights[index]? = some (some recorded) → depth ≤ recorded

/-- For every depth the stack has the nearest less deep instruction on top, once the deeper ones are
dropped. -/
def Tracks (opened : List (Nat × Nat)) (heights : List (Option Nat)) (place : Nat) : Prop :=
  ∀ depth, IsNearest heights place depth ((enclosing depth opened).head?.map (·.1))

theorem IsNearest.succ {nearest : Option Nat} (isNearest : IsNearest heights place depth nearest)
    (notLess : ∀ recorded, heights[place]? = some (some recorded) → depth ≤ recorded) :
    IsNearest heights (place + 1) depth nearest := by
  cases nearest with
  | none =>
      intro index index_lt
      rcases Nat.lt_succ_iff_lt_or_eq.mp index_lt with earlier | rfl
      · exact isNearest index earlier
      · exact notLess
  | some nearest =>
      rcases isNearest with ⟨nearest_lt, less, between⟩
      refine ⟨nearest_lt.trans (Nat.lt_succ_self _), less, ?_⟩
      intro index index_lt
      rcases Nat.lt_succ_iff_lt_or_eq.mp index_lt with earlier | rfl
      · exact between index earlier
      · exact fun _ => notLess

theorem enclosing_enclosing {shallow deep : Nat} (le : shallow ≤ deep)
    (opened : List (Nat × Nat)) :
    enclosing shallow (enclosing deep opened) = enclosing shallow opened := by
  induction opened with
  | nil => rfl
  | cons entry rest ih =>
      by_cases dropped : deep ≤ entry.2
      · have droppedToo : shallow ≤ entry.2 := le.trans dropped
        simpa [enclosing, dropped, droppedToo] using ih
      · simp [enclosing, dropped]

/-- Opening an invocation keeps the stack up to date. -/
theorem Tracks.push (tracks : Tracks opened heights place)
    (stands : heights[place]? = some (some depth)) :
    Tracks ((place, depth) :: enclosing depth opened) heights (place + 1) := by
  intro wanted
  by_cases deeper : wanted ≤ depth
  · have top : enclosing wanted ((place, depth) :: enclosing depth opened) =
        enclosing wanted opened := by
      rw [← enclosing_enclosing deeper opened]
      simp [enclosing, deeper]
    rw [top]
    apply (tracks wanted).succ
    intro recorded same
    rw [stands, Option.some.injEq, Option.some.injEq] at same
    exact same ▸ deeper
  · have top : (enclosing wanted ((place, depth) :: enclosing depth opened)).head?.map (·.1) =
        some place := by
      simp [enclosing, deeper]
    rw [top]
    refine ⟨Nat.lt_succ_self place, ⟨depth, Nat.lt_of_not_le deeper, stands⟩, ?_⟩
    intro index index_lt after
    omega

theorem Tracks.skip (tracks : Tracks opened heights place)
    (stands : heights[place]? = some none) : Tracks opened heights (place + 1) := by
  intro wanted
  apply (tracks wanted).succ
  simp [stands]

/-- The parent of an instruction is the nearest one before it that ran less deep; where no depth is
recorded, there is none. -/
def IsParent (heights : List (Option Nat)) (place : Nat) (parent : Option Nat) : Prop :=
  match heights[place]?.join with
  | none => parent = none
  | some depth => IsNearest heights place depth parent

/-- The stack takes one step for each height. That it stays up to date carries the induction, and
makes its top the parent. -/
theorem isParent_parentsFrom {rest : List (Option Nat)} (tracks : Tracks opened heights place)
    (remaining : heights.drop place = rest) (offset : Nat) :
    IsParent heights (place + offset) (parentsFrom place opened rest)[offset]?.join := by
  induction rest generalizing place opened offset with
  | nil =>
      have beyond : heights[place + offset]? = none := by
        rw [← List.getElem?_drop, remaining, List.getElem?_nil]
      simp [IsParent, beyond, parentsFrom]
  | cons height rest ih =>
      have stands : heights[place]? = some height := by
        rw [← Nat.add_zero place, ← List.getElem?_drop, remaining, List.getElem?_cons_zero]
      have restRemaining : heights.drop (place + 1) = rest := by
        rw [← List.drop_drop, remaining, List.drop_one, List.tail_cons]
      cases height with
      | none =>
          rw [parentsFrom]
          cases offset with
          | zero => simp [IsParent, stands]
          | succ offset =>
              rw [List.getElem?_cons_succ, Nat.add_comm offset 1, ← Nat.add_assoc]
              exact ih (tracks.skip stands) restRemaining offset
      | some depth =>
          rw [parentsFrom]
          cases offset with
          | zero => simpa [IsParent, stands] using tracks depth
          | succ offset =>
              rw [List.getElem?_cons_succ, Nat.add_comm offset 1, ← Nat.add_assoc]
              exact ih (tracks.push stands) restRemaining offset

theorem isParent_parent? (heights : List (Option Nat)) (place : Nat) :
    IsParent heights place ((build heights).parent? place) := by
  have nothingOpen : Tracks [] heights 0 := by
    intro depth index index_lt
    omega
  have parent := isParent_parentsFrom nothingOpen List.drop_zero place
  rwa [Nat.zero_add] at parent

theorem parent?_lt {parent : Nat} (isParent : (build heights).parent? place = some parent) :
    parent < place := by
  have nearest := isParent_parent? heights place
  rw [isParent, IsParent] at nearest
  cases recorded : heights[place]?.join with
  | none => simp [recorded] at nearest
  | some depth =>
      rw [recorded] at nearest
      exact nearest.1

/-- The instructions before a place that are known to have run less deep than `depth`. -/
def shallowerBefore (heights : List (Option Nat)) (place depth : Nat) : Set Nat :=
  {index | index < place ∧ ∃ recorded < depth, heights[index]? = some (some recorded)}

theorem isNearest_none_iff :
    IsNearest heights place depth none ↔ shallowerBefore heights place depth = ∅ := by
  rw [Set.eq_empty_iff_forall_notMem]
  constructor
  · rintro notLess index ⟨index_lt, recorded, recorded_lt, stands⟩
    exact absurd recorded_lt (notLess index index_lt recorded stands).not_gt
  · intro none index index_lt recorded stands
    by_contra less
    exact none index ⟨index_lt, recorded, Nat.lt_of_not_le less, stands⟩

theorem isNearest_some_iff {nearest : Nat} :
    IsNearest heights place depth (some nearest) ↔
      IsGreatest (shallowerBefore heights place depth) nearest := by
  constructor
  · rintro ⟨nearest_lt, less, between⟩
    refine ⟨⟨nearest_lt, less⟩, ?_⟩
    rintro index ⟨index_lt, recorded, recorded_lt, stands⟩
    by_contra after
    exact absurd recorded_lt
      (between index index_lt (Nat.lt_of_not_le after) recorded stands).not_gt
  · rintro ⟨⟨nearest_lt, less⟩, greatest⟩
    refine ⟨nearest_lt, less, fun index index_lt after recorded stands => ?_⟩
    by_contra shallower
    exact absurd after
      (greatest ⟨index_lt, recorded, Nat.lt_of_not_le shallower, stands⟩).not_gt

/-- The parent of an instruction with a recorded depth is the greatest place before it at which a
smaller depth is recorded, and there is no parent just if there is no such place. An instruction
without a recorded depth has no parent, and none has one behind it. -/
theorem parents_nearest (heights : List (Option Nat)) :
    (build heights).parents.length = heights.length ∧
      (∀ place depth, heights[place]? = some (some depth) →
        (∀ parent, (build heights).parent? place = some parent ↔
          IsGreatest (shallowerBefore heights place depth) parent) ∧
        ((build heights).parent? place = none ↔ shallowerBefore heights place depth = ∅)) ∧
      (∀ place, heights[place]?.join = none → (build heights).parent? place = none) ∧
      ∀ place parent, (build heights).parent? place = some parent → parent < place := by
  refine ⟨length_parents_build heights, ?_, ?_, fun _ _ isParent => parent?_lt isParent⟩
  · intro place depth stands
    have nearest := isParent_parent? heights place
    simp only [IsParent, stands, Option.join_some] at nearest
    cases found : (build heights).parent? place with
    | none =>
        rw [found, isNearest_none_iff] at nearest
        simp [nearest, IsGreatest]
    | some parent =>
        rw [found, isNearest_some_iff] at nearest
        refine ⟨fun other => ?_, iff_of_false (by simp) (Set.nonempty_of_mem nearest.1).ne_empty⟩
        rw [Option.some.injEq]
        exact ⟨fun same => same ▸ nearest, nearest.unique⟩
  · intro place unknown
    have none := isParent_parent? heights place
    rwa [IsParent, unknown] at none

/-- Two exchanges below a router, the first with a transfer of its own and a gap before it, and a
payment of lesser depth than the router. -/
def gappedHeights : List (Option Nat) := [some 2, some 3, none, some 4, some 3, some 1]

/-- A gap in the depths is passed over, and so is the whole of the first exchange by the second. -/
theorem parents_nearest_gapped :
    gappedHeights[3]? = some (some 4) ∧ IsGreatest (shallowerBefore gappedHeights 3 4) 1 ∧
      gappedHeights[4]? = some (some 3) ∧ IsGreatest (shallowerBefore gappedHeights 4 3) 0 ∧
      gappedHeights[5]? = some (some 1) ∧ shallowerBefore gappedHeights 5 1 = ∅ ∧
      gappedHeights[2]?.join = none ∧ (build gappedHeights).parent? 2 = none := by
  rcases parents_nearest gappedHeights with ⟨_, known, unknown, _⟩
  exact ⟨rfl, ((known 3 4 rfl).1 1).mp (by decide), rfl, ((known 4 3 rfl).1 0).mp (by decide), rfl,
    (known 5 1 rfl).2.mp (by decide), rfl, unknown 2 rfl⟩

/-! ## Chains of parents -/

/-- Chains of parents lead back. -/
theorem lt_of_reaches (reaches : (build heights).reaches ancestor fuel index) :
    ancestor < index := by
  induction fuel generalizing index with
  | zero => simp [InvocationTree.reaches] at reaches
  | succ fuel ih =>
      rw [InvocationTree.reaches] at reaches
      cases found : (build heights).parent? index with
      | none => simp [found] at reaches
      | some parent =>
          have parent_lt := parent?_lt found
          simp only [found, Bool.or_eq_true, beq_iff_eq] at reaches
          rcases reaches with rfl | further
          · exact parent_lt
          · exact (ih further).trans parent_lt

/-- The chain of parents above an instruction that ran deeper, as all in between did, leads to
`ancestor`. -/
theorem reaches_of_runsDeeper (stands : heights[ancestor]? = some (some depth))
    (after : ancestor < index) (index_le : index ≤ fuel)
    (deeper : ∀ between, ancestor < between → between ≤ index →
      RunsDeeper heights depth between) :
    (build heights).reaches ancestor fuel index := by
  induction fuel generalizing index with
  | zero => omega
  | succ fuel ih =>
      rcases deeper index after (Nat.le_refl _) with ⟨recorded, indexStands, depth_lt⟩
      have nearest := isParent_parent? heights index
      simp only [IsParent, indexStands, Option.join_some] at nearest
      rw [reaches]
      cases found : (build heights).parent? index with
      | none =>
          rw [found] at nearest
          have notLess := nearest ancestor after depth stands
          omega
      | some parent =>
          rw [found] at nearest
          rcases nearest with ⟨parent_lt, _, between⟩
          rcases Nat.lt_trichotomy parent ancestor with before | rfl | parentAfter
          · have notLess := between ancestor after before depth stands
            omega
          · simp
          · have further := ih parentAfter (by omega) fun between first last =>
              deeper between first (by omega)
            simp [further]

/-- Conversely, a chain of parents that leads to `ancestor` past instructions that ran deeper starts
at one that ran deeper: the parent is the ancestor itself, or one of those in between. -/
theorem runsDeeper_of_reaches (stands : heights[ancestor]? = some (some depth))
    (deeper : ∀ between, ancestor < between → between < index →
      RunsDeeper heights depth between)
    (reached : (build heights).reaches ancestor fuel index) : RunsDeeper heights depth index := by
  have nearest := isParent_parent? heights index
  cases fuel with
  | zero => simp [reaches] at reached
  | succ fuel =>
      rw [reaches] at reached
      cases found : (build heights).parent? index with
      | none => simp [found] at reached
      | some parent =>
          simp only [found, Bool.or_eq_true, beq_iff_eq] at reached
          rw [found, IsParent] at nearest
          cases indexStands : heights[index]?.join with
          | none => simp [indexStands] at nearest
          | some recorded =>
              rw [indexStands] at nearest
              rcases nearest with ⟨parent_lt, ⟨less, less_lt, parentStands⟩, _⟩
              refine ⟨recorded, Option.join_eq_some_iff.mp indexStands, ?_⟩
              rcases reached with rfl | further
              · rw [stands, Option.some.injEq, Option.some.injEq] at parentStands
                omega
              · rcases deeper parent (lt_of_reaches further) parent_lt with
                  ⟨parentDepth, parentDeeper, depth_lt⟩
                rw [parentDeeper, Option.some.injEq, Option.some.injEq] at parentStands
                omega

/-- Behind instructions that all ran deeper, the next one was invoked just if it ran deeper too. -/
theorem isInvokedBy_iff (stands : heights[ancestor]? = some (some depth))
    (after : ancestor < index)
    (deeper : ∀ between, ancestor < between → between < index →
      RunsDeeper heights depth between) :
    (build heights).isInvokedBy index ancestor ↔ RunsDeeper heights depth index := by
  constructor
  · exact runsDeeper_of_reaches stands deeper
  · intro runsDeeper
    rcases runsDeeper with ⟨recorded, indexStands, depth_lt⟩
    have index_lt := (List.getElem?_eq_some_iff.mp indexStands).1
    apply reaches_of_runsDeeper stands after
    · rw [length_parents_build]
      exact index_lt.le
    · intro between first last
      rcases Nat.lt_or_eq_of_le last with before | rfl
      · exact deeper between first before
      · exact ⟨recorded, indexStands, depth_lt⟩

/-! ## Ranges -/

/-- The instructions from a place on that ran deeper than `depth` end at `past`. -/
structure IsDeeperRange (heights : List (Option Nat)) (depth first past : Nat) : Prop where
  first_le : first ≤ past
  deeper : ∀ index, first ≤ index → index < past → RunsDeeper heights depth index
  ends : ¬RunsDeeper heights depth past

theorem IsDeeperRange.eq {first past other : Nat} (range : IsDeeperRange heights depth first past)
    (otherRange : IsDeeperRange heights depth first other) : past = other := by
  rcases Nat.lt_trichotomy past other with before | same | after
  · exact absurd (otherRange.deeper past range.first_le before) range.ends
  · exact same
  · exact absurd (range.deeper other otherRange.first_le after) otherRange.ends

theorem isDeeperRange_invokedCount (stands : heights[ancestor]? = some (some depth))
    (after : ancestor < start) (enough : heights.length ≤ start + fuel)
    (deeper : ∀ between, ancestor < between → between < start →
      RunsDeeper heights depth between) :
    IsDeeperRange heights depth start
      (start + (build heights).invokedCount ancestor fuel start) := by
  induction fuel generalizing start with
  | zero =>
      rw [invokedCount, Nat.add_zero]
      refine ⟨Nat.le_refl _, fun index first last => by omega, ?_⟩
      rintro ⟨recorded, beyond, _⟩
      have start_lt := (List.getElem?_eq_some_iff.mp beyond).1
      omega
  | succ fuel ih =>
      rw [invokedCount]
      split_ifs with counted
      · have startDeeper := (isInvokedBy_iff stands after deeper).mp counted.2
        have rest := ih (after.trans (Nat.lt_succ_self start)) (by omega) fun between first last =>
          (Nat.lt_succ_iff_lt_or_eq.mp last).elim (deeper between first) (· ▸ startDeeper)
        have past_eq : start + ((build heights).invokedCount ancestor fuel (start + 1) + 1) =
            start + 1 + (build heights).invokedCount ancestor fuel (start + 1) := by
          omega
        rw [past_eq]
        refine ⟨by omega, ?_, rest.ends⟩
        intro index first last
        rcases Nat.eq_or_lt_of_le first with rfl | later
        · exact startDeeper
        · exact rest.deeper index later last
      · refine ⟨Nat.le_refl _, fun index first last => by omega, ?_⟩
        rintro ⟨recorded, startStands, depth_lt⟩
        apply counted
        rw [length_parents_build]
        exact ⟨(List.getElem?_eq_some_iff.mp startStands).1,
          (isInvokedBy_iff stands after deeper).mpr ⟨recorded, startStands, depth_lt⟩⟩

/-- Where the depth of an instruction is recorded, it invoked those right after it that ran
deeper. -/
theorem descendants_build_eq_iff (stands : heights[index]? = some (some depth)) {past : Nat} :
    (build heights).descendants index = (index + 1, past) ↔
      IsDeeperRange heights depth (index + 1) past := by
  have index_lt := (List.getElem?_eq_some_iff.mp stands).1
  have recorded : (build heights).height? index = some depth := by
    simp [height?, build, stands]
  have start_eq : min (index + 1) heights.length = index + 1 := Nat.min_eq_left index_lt
  have range : IsDeeperRange heights depth (index + 1)
      (index + 1 + (build heights).invokedCount index heights.length (index + 1)) :=
    isDeeperRange_invokedCount stands (Nat.lt_succ_self index) (by omega)
      fun between first last => by omega
  rw [descendants, recorded]
  simp only [length_parents_build, start_eq, Prod.mk.injEq, true_and]
  constructor
  · rintro rfl
    exact range
  · exact range.eq

/-- Ranges nest: what an instruction invoked that was invoked itself ends no later, as the first
instruction behind the outer range did not run deeper than the inner one. -/
theorem descendants_snd_le_of_invoked {later : Nat}
    (invoked : ((build heights).descendants index).1 ≤ later ∧
      later < ((build heights).descendants index).2) :
    ((build heights).descendants later).2 ≤ ((build heights).descendants index).2 := by
  rcases range : (build heights).descendants index with ⟨first, past⟩
  rcases laterRange : (build heights).descendants later with ⟨laterFirst, laterPast⟩
  rw [range] at invoked
  have first_eq := (build heights).descendants_fst index
  have laterFirst_eq := (build heights).descendants_fst later
  have past_le := (build heights).descendants_snd_le index
  have laterPast_le := (build heights).descendants_snd_le later
  simp only [range, laterRange, length_parents_build] at first_eq laterFirst_eq past_le laterPast_le
  have index_lt : index < heights.length := by omega
  rcases height : heights[index] with _ | depth
  · have unknown : (build heights).height? index = none := by
      simp [height?, build, List.getElem?_eq_getElem index_lt, height]
    have whole := (build heights).descendants_of_height?_eq_none unknown
    rw [range, length_parents_build, Prod.mk.injEq] at whole
    simpa [whole.2] using laterPast_le
  · have stands : heights[index]? = some (some depth) := by
      rw [List.getElem?_eq_getElem index_lt, height]
    have start_eq : first = index + 1 := by omega
    subst start_eq
    have deeperRange := (descendants_build_eq_iff stands).mp range
    rcases deeperRange.deeper later invoked.1 invoked.2 with ⟨laterDepth, laterStands, depth_lt⟩
    have laterStart_eq : laterFirst = later + 1 := by omega
    subst laterStart_eq
    have laterDeeperRange := (descendants_build_eq_iff laterStands).mp laterRange
    by_contra longer
    rcases laterDeeperRange.deeper past invoked.2 (Nat.lt_of_not_le longer) with
      ⟨pastDepth, pastStands, laterDepth_lt⟩
    exact deeperRange.ends ⟨pastDepth, pastStands, depth_lt.trans laterDepth_lt⟩

end InvocationTree

end SwapLedger
