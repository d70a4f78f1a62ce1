import Mathlib.Data.List.TakeWhile
import SwapLedger.Proofs.Agreement

/-!
# Independence of top-level instructions

All transfers stand in one list, and the search cuts its windows out of it. Where the list is sorted
by position, the transfers of one top-level instruction are a slice of it, all windows below that
instruction are cut out of this slice, and the cursor never leaves it. What is found there depends
on nothing else, and all that is found is put together from what each top-level instruction gives.
-/

namespace SwapLedger

namespace Detection

variable {detection : Detection} {outer : Nat} {earlier own later : List Transfer}

/-! ## The slice of a top-level instruction -/

/-- The transfers of one top-level instruction stand together, between those of earlier and those of
later ones. -/
structure Slice (detection : Detection) (outer : Nat) (earlier own later : List Transfer) :
    Prop where
  transfers_eq : detection.transfers = earlier ++ (own ++ later)
  outer_of_earlier : ∀ transfer ∈ earlier, transfer.position.outer < outer
  outer_of_own : ∀ transfer ∈ own, transfer.position.outer = outer
  outer_of_later : ∀ transfer ∈ later, outer < transfer.position.outer

/-- A list that is sorted by a number falls into what is below a bound, at it and above it. -/
theorem eq_filter_append_filter {α : Type*} {key : α → Nat} {list : List α}
    (sorted : list.Pairwise fun first second => key first ≤ key second) (bound : Nat) :
    list = list.filter (fun element => key element < bound) ++
      (list.filter (fun element => key element = bound) ++
        list.filter (fun element => bound < key element)) := by
  induction list with
  | nil => rfl
  | cons head rest ih =>
      rw [List.pairwise_cons] at sorted
      rcases sorted with ⟨head_le, sorted⟩
      have restSplit := ih sorted
      rcases Nat.lt_trichotomy (key head) bound with below | same | above
      · have notSame : key head ≠ bound := below.ne
        have notAbove : ¬bound < key head := below.not_gt
        simpa [below, notSame, notAbove] using restSplit
      · have noneBelow : rest.filter (fun element => key element < bound) = [] := by
          rw [List.filter_eq_nil_iff]
          intro element member
          have head_le := head_le element member
          simp only [decide_eq_true_eq]
          omega
        rw [noneBelow, List.nil_append] at restSplit
        simpa [same, noneBelow] using restSplit
      · have allAbove : ∀ element ∈ rest, bound < key element := fun element member =>
          above.trans_le (head_le element member)
        have noneBelow : rest.filter (fun element => key element < bound) = [] := by
          rw [List.filter_eq_nil_iff]
          intro element member
          simpa using (allAbove element member).le
        have noneSame : rest.filter (fun element => key element = bound) = [] := by
          rw [List.filter_eq_nil_iff]
          intro element member
          simpa using (allAbove element member).ne'
        rw [noneBelow, noneSame, List.nil_append, List.nil_append] at restSplit
        have notBelow : ¬key head < bound := above.not_gt
        have notSame : key head ≠ bound := above.ne'
        simpa [above, notBelow, notSame, noneBelow, noneSame] using restSplit

/-- Among sorted transfers those of one top-level instruction are a slice. -/
theorem exists_slice (detection : Detection)
    (sorted : detection.transfers.Pairwise fun first second => first.position ≤ second.position)
    (outer : Nat) :
    ∃ earlier later, detection.Slice outer earlier
      (detection.transfers.filter fun transfer => transfer.position.outer = outer) later := by
  have sortedByOuter : detection.transfers.Pairwise fun first second =>
      first.position.outer ≤ second.position.outer := by
    apply sorted.imp
    intro first second le
    by_contra above
    exact le (Position.lt_of_outer_lt (Nat.lt_of_not_le above))
  refine ⟨_, _, eq_filter_append_filter sortedByOuter outer, ?_, ?_, ?_⟩ <;>
  · intro transfer member
    simpa using (List.mem_filter.mp member).2

/-- How many transfers of the slice were made before a position. -/
def madeAmong (own : List Transfer) (position : Position) : Nat :=
  (own.takeWhile fun transfer => decide (transfer.position < position)).length

theorem madeAmong_le_length (own : List Transfer) (position : Position) :
    madeAmong own position ≤ own.length :=
  (List.takeWhile_sublist _).length_le

namespace Slice

variable (slice : detection.Slice outer earlier own later)

include slice

/-- A partition point that leaves out no earlier transfer and takes in no later one lies in the
slice. -/
theorem countWhile_eq (condition : Transfer → Bool)
    (before : ∀ transfer : Transfer, transfer.position.outer < outer → condition transfer)
    (after : ∀ transfer : Transfer, outer < transfer.position.outer → ¬condition transfer) :
    detection.countWhile condition = earlier.length + (own.takeWhile condition).length := by
  have noLater : later.takeWhile condition = [] := by
    rw [List.takeWhile_eq_nil_iff]
    intro nonempty
    exact after _ (slice.outer_of_later _ (List.getElem_mem nonempty))
  rw [countWhile, slice.transfers_eq, List.takeWhile_append_of_pos, List.length_append,
    List.takeWhile_append, noLater, List.append_nil]
  · split_ifs with whole
    · rw [whole]
    · rfl
  · intro transfer member
    exact before transfer (slice.outer_of_earlier transfer member)

theorem madeBefore_eq {position : Position} (same : position.outer = outer) :
    detection.madeBefore position = earlier.length + madeAmong own position := by
  apply slice.countWhile_eq
  · intro transfer before
    exact decide_eq_true (Position.lt_of_outer_lt (same ▸ before))
  · intro transfer after
    rw [decide_eq_true_eq]
    exact not_lt_of_gt (Position.lt_of_outer_lt (same ▸ after))

/-- A window inside the slice is cut out of it. -/
theorem windowBetween_eq (start : Nat) {stop : Nat} (stop_le : stop ≤ own.length) :
    detection.windowBetween (earlier.length + start) (earlier.length + stop) =
      (own.drop start).take (stop - start) := by
  have inside : stop - start ≤ (own.drop start).length := by
    rw [List.length_drop]
    omega
  rw [windowBetween, slice.transfers_eq, List.drop_length_add_append, Nat.add_sub_add_left]
  rcases Nat.le_total start own.length with start_le | le_start
  · rw [List.drop_append_of_le_length start_le, List.take_append_of_le_length inside]
  · have empty : stop - start = 0 := by omega
    rw [empty, List.take_zero, List.take_zero]

/-- The window of the top-level instruction is the slice. -/
theorem ownVisit_eq {instruction : Instruction} : detection.ownVisit instruction outer =
    detection.visit instruction (.topLevel outer) (detection.transaction.invokedBy outer) 0
      (detection.transaction.invokedBy outer).length (earlier.length + 0)
      (earlier.length + own.length) := by
  have notBefore :
      own.takeWhile (fun transfer => decide (transfer.position.outer < outer)) = [] := by
    rw [List.takeWhile_eq_nil_iff]
    intro nonempty
    simp [slice.outer_of_own _ (List.getElem_mem nonempty)]
  have upTo : own.takeWhile (fun transfer => decide (transfer.position.outer ≤ outer)) = own := by
    rw [List.takeWhile_eq_self_iff]
    intro transfer member
    simp [slice.outer_of_own transfer member]
  have start_eq := slice.countWhile_eq (fun transfer => decide (transfer.position.outer < outer))
    (fun transfer before => decide_eq_true before)
    (fun transfer after => by simpa using after.le)
  have stop_eq := slice.countWhile_eq (fun transfer => decide (transfer.position.outer ≤ outer))
    (fun transfer before => decide_eq_true before.le)
    (fun transfer after => by simpa using after)
  rw [notBefore, List.length_nil] at start_eq
  rw [upTo] at stop_eq
  rw [ownVisit, start_eq, stop_eq]

/-- The window of an invoked instruction lies in the slice, if the cursor does. -/
theorem visitOf_eq {instruction : Instruction} {index first past place : Nat}
    (range : (detection.transaction.invocationTree outer).descendants index = (first, past)) :
    detection.visitOf outer (earlier.length + place) instruction index =
      detection.visit instruction (.invoked outer index) (detection.transaction.invokedBy outer)
        first past (earlier.length + max (madeAmong own (.invoked outer first)) place)
        (earlier.length + max (madeAmong own (.invoked outer past))
          (max (madeAmong own (.invoked outer first)) place)) := by
  rw [Detection.visitOf_eq range, slice.madeBefore_eq rfl, slice.madeBefore_eq rfl,
    Nat.add_max_add_left, Nat.add_max_add_left]

end Slice

/-! ## Two searches that share a top-level instruction -/

/-- Two searches have the same registry and account table, and the same instructions were invoked
below a top-level instruction. -/
structure Shares (other detection : Detection) (outer : Nat) : Prop where
  registry_eq : other.registry = detection.registry
  table_eq : other.table = detection.table
  invokedBy_eq : other.transaction.invokedBy outer = detection.transaction.invokedBy outer

namespace Shares

variable {other : Detection} {otherEarlier otherLater : List Transfer} {instruction : Instruction}
  {position : Position} {group : List Instruction} {index first past start stop cursor : Nat}

theorem invocationTree_eq (shares : other.Shares detection outer) :
    other.transaction.invocationTree outer = detection.transaction.invocationTree outer := by
  rw [Transaction.invocationTree, Transaction.invocationTree, shares.invokedBy_eq]

theorem reading?_eq (shares : other.Shares detection outer) :
    other.reading? instruction = detection.reading? instruction := by
  rw [reading?, reading?, shares.registry_eq, shares.table_eq]

/-- In both searches the cursor stands at the same place of the slice. -/
def Level (earlier otherEarlier own : List Transfer) (cursor otherCursor : Nat) : Prop :=
  ∃ place, place ≤ own.length ∧ cursor = earlier.length + place ∧
    otherCursor = otherEarlier.length + place

variable (shares : other.Shares detection outer)
  (slice : detection.Slice outer earlier own later)
  (otherSlice : other.Slice outer otherEarlier own otherLater)

include shares slice otherSlice

/-- At the same places of the slice a matcher sees the same in both searches, and claims as much of
the slice. -/
theorem outcome_claimed_visit_eq (start_le : start ≤ own.length) (stop_le : stop ≤ own.length) :
    let visit := detection.visit instruction position group first past (earlier.length + start)
      (earlier.length + stop)
    let otherVisit := other.visit instruction position group first past
      (otherEarlier.length + start) (otherEarlier.length + stop)
    otherVisit.outcome? = visit.outcome? ∧ otherVisit.claimed = visit.claimed ∧
      start + visit.claimed ≤ own.length := by
  intro visit otherVisit
  have window := slice.windowBetween_eq start stop_le
  have otherWindow := otherSlice.windowBetween_eq start stop_le
  have sameOutcome : otherVisit.outcome? = visit.outcome? := by
    simp only [visit, otherVisit, outcome?_visit, shares.reading?_eq, contextOf, shares.table_eq,
      window, otherWindow]
  have sameClaimed : otherVisit.claimed = visit.claimed := by
    rw [claimed_visit, claimed_visit, sameOutcome, window, otherWindow]
  refine ⟨sameOutcome, sameClaimed, ?_⟩
  have claimed_le : visit.claimed ≤ own.length - start := by
    rw [claimed_visit, window]
    cases visit.outcome? with
    | none => exact Nat.zero_le _
    | some outcome =>
        rw [Option.map_some, Option.getD_some, List.length_take, List.length_drop]
        omega
  omega

omit shares slice otherSlice in
/-- Visits that claim the same part of the slice move level cursors to level places. -/
theorem level_cursorAfter {visit otherVisit : Visit} {place : Nat} (place_le : place ≤ own.length)
    (starts : visit.start = earlier.length + start)
    (otherStarts : otherVisit.start = otherEarlier.length + start)
    (sameOutcome : otherVisit.outcome? = visit.outcome?)
    (sameClaimed : otherVisit.claimed = visit.claimed)
    (claimed_le : start + visit.claimed ≤ own.length) :
    Level earlier otherEarlier own (visit.cursorAfter (earlier.length + place))
      (otherVisit.cursorAfter (otherEarlier.length + place)) := by
  have stays : Level earlier otherEarlier own (earlier.length + place)
      (otherEarlier.length + place) := ⟨place, place_le, rfl, rfl⟩
  have moves : Level earlier otherEarlier own (earlier.length + (start + visit.claimed))
      (otherEarlier.length + (start + visit.claimed)) := ⟨_, claimed_le, rfl, rfl⟩
  rw [Visit.cursorAfter_eq, Visit.cursorAfter_eq, sameOutcome, sameClaimed, starts, otherStarts,
    Nat.add_assoc, Nat.add_assoc]
  cases visit.outcome? with
  | none => exact stays
  | some outcome =>
      dsimp only
      split_ifs
      · exact stays
      · exact moves

/-- From level cursors the visits of an invoked instruction find the same, and the cursors stay
level. -/
theorem level_visitOf {otherCursor : Nat}
    (level : Level earlier otherEarlier own cursor otherCursor) :
    (other.visitOf outer otherCursor instruction index).outcome? =
        (detection.visitOf outer cursor instruction index).outcome? ∧
      Level earlier otherEarlier own
        ((detection.visitOf outer cursor instruction index).cursorAfter cursor)
        ((other.visitOf outer otherCursor instruction index).cursorAfter otherCursor) := by
  rcases level with ⟨place, place_le, rfl, rfl⟩
  rcases range : (detection.transaction.invocationTree outer).descendants index with ⟨first, past⟩
  have otherRange : (other.transaction.invocationTree outer).descendants index = (first, past) := by
    rw [shares.invocationTree_eq, range]
  have first_le := madeAmong_le_length own (.invoked outer first)
  have past_le := madeAmong_le_length own (.invoked outer past)
  rw [slice.visitOf_eq range, otherSlice.visitOf_eq otherRange, shares.invokedBy_eq]
  rcases shares.outcome_claimed_visit_eq slice otherSlice (Nat.max_le.mpr ⟨first_le, place_le⟩)
    (Nat.max_le.mpr ⟨past_le, Nat.max_le.mpr ⟨first_le, place_le⟩⟩) with
    ⟨sameOutcome, sameClaimed, claimed_le⟩
  exact ⟨sameOutcome, level_cursorAfter place_le rfl rfl sameOutcome sameClaimed claimed_le⟩

/-- What is found under the top-level instruction is the same in both searches: their cursors start
behind the same claim of the slice, and every step keeps them level. -/
theorem outcomesAt_eq :
    other.outcomesAt instruction outer = detection.outcomesAt instruction outer := by
  rcases shares.outcome_claimed_visit_eq slice otherSlice (Nat.zero_le _) (Nat.le_refl _) with
    ⟨sameOutcome, sameClaimed, claimed_le⟩
  have sameBelow : (other.visitsFrom outer (otherEarlier.length + (0 + _))
      ((detection.transaction.invokedBy outer).zipIdx.map id)).filterMap Visit.outcome? =
        (detection.visitsFrom outer (earlier.length + (0 + _))
          (detection.transaction.invokedBy outer).zipIdx).filterMap Visit.outcome? :=
    filterMap_outcome?_visitsFrom
      (fun _ _ _ _ level => shares.level_visitOf slice otherSlice level)
      ⟨_, claimed_le, rfl, rfl⟩
  rw [List.map_id] at sameBelow
  rw [Detection.outcomesAt_eq, Detection.outcomesAt_eq, slice.ownVisit_eq, otherSlice.ownVisit_eq,
    shares.invokedBy_eq, sameOutcome, sameClaimed]
  congr 1
  rw [start_visit, start_visit, Nat.add_assoc, Nat.add_assoc, sameBelow]

end Shares

/-! ## The candidates of a top-level instruction -/

variable (detection) in
/-- The candidates that are found under the top-level instruction at a place, in execution order. -/
def candidatesAt (outer : Nat) : List Candidate :=
  match detection.transaction.instructions[outer]? with
  | none => []
  | some instruction =>
    ((detection.visitsAt instruction outer).filterMap (·.run)).filterMap (·.outcome.candidate)

theorem candidatesAt_eq (detection : Detection) (outer : Nat) : detection.candidatesAt outer =
    match detection.transaction.instructions[outer]? with
    | none => []
    | some instruction => (detection.outcomesAt instruction outer).filterMap (·.candidate) := by
  rw [candidatesAt]
  cases detection.transaction.instructions[outer]? with
  | none => rfl
  | some instruction =>
      simp only [outcomesAt, List.filterMap_filterMap, Visit.outcome?, Option.bind_map,
        Function.comp_def]

/-- A numbered list can be gone through by its numbers. -/
theorem flatMap_zipIdx_eq {α β : Type*} (list : List α) (give : α × Nat → List β) (first : Nat) :
    (list.zipIdx first).flatMap give = (List.range list.length).flatMap fun place =>
      match list[place]? with
      | none => []
      | some element => give (element, first + place) := by
  induction list generalizing first with
  | nil => rfl
  | cons head rest ih =>
      rw [List.zipIdx_cons, List.flatMap_cons, ih, List.length_cons, List.range_succ_eq_map,
        List.flatMap_cons, List.flatMap_map]
      simp only [List.getElem?_cons_zero, List.getElem?_cons_succ, Nat.add_zero,
        Nat.succ_eq_add_one, Nat.add_right_comm first 1, Nat.add_assoc]

theorem candidates_eq_candidatesAt (detection : Detection) : detection.candidates =
    (List.range detection.transaction.instructions.length).flatMap detection.candidatesAt := by
  rw [candidates_eq_flatMap, flatMap_zipIdx_eq]
  apply List.flatMap_congr
  intro outer _
  rw [candidatesAt_eq, Nat.zero_add]
  cases detection.transaction.instructions[outer]? <;> rfl

/-- Top-level instructions are independent, whatever the matchers of the registry are. Two
transactions with the same account table, and two lists of transfers sorted by position, give the
same candidates for a top-level instruction if they agree on it, on what it invoked and on the
transfers made under it; and all candidates are those of the top-level instructions, one after the
other. -/
theorem candidates_independent {registry : Registry} {transaction other : Transaction}
    {transfers otherTransfers : List Transfer} {outer : Nat}
    (sameTable : other.accounts = transaction.accounts)
    (sorted : transfers.Pairwise fun first second => first.position ≤ second.position)
    (otherSorted : otherTransfers.Pairwise fun first second => first.position ≤ second.position)
    (sameInstruction : other.instructions[outer]? = transaction.instructions[outer]?)
    (sameInvoked : other.invokedBy outer = transaction.invokedBy outer)
    (sameTransfers : (otherTransfers.filter fun transfer => transfer.position.outer = outer) =
      transfers.filter fun transfer => transfer.position.outer = outer) :
    candidatesAt ⟨registry, other, otherTransfers⟩ outer =
        candidatesAt ⟨registry, transaction, transfers⟩ outer ∧
      ∀ detection : Detection, detection.candidates =
        (List.range detection.transaction.instructions.length).flatMap detection.candidatesAt := by
  refine ⟨?_, candidates_eq_candidatesAt⟩
  have shares : Shares ⟨registry, other, otherTransfers⟩ ⟨registry, transaction, transfers⟩ outer :=
    ⟨rfl, sameTable, sameInvoked⟩
  rcases exists_slice ⟨registry, transaction, transfers⟩ sorted outer with
    ⟨earlier, later, slice⟩
  rcases exists_slice ⟨registry, other, otherTransfers⟩ otherSorted outer with
    ⟨otherEarlier, otherLater, otherSlice⟩
  simp only [sameTransfers] at otherSlice
  rw [candidatesAt_eq, candidatesAt_eq, sameInstruction]
  cases transaction.instructions[outer]? with
  | none => rfl
  | some instruction => simp only [shares.outcomesAt_eq slice otherSlice]

/-- Two routed trades behind another top-level instruction. -/
def routedTradesAfter (earlier : Instruction) (invoked : List Instruction) : Transaction :=
  let routed := Transaction.routedTrades
  { routed with
    instructions := earlier :: routed.instructions
    innerGroups := ⟨0, invoked⟩ :: routed.innerGroups.map fun group => { group with index := 1 } }

/-- Whether a trade or nothing comes before them, the routed trades are found as they are. -/
theorem candidatesAt_routedTradesAfter :
    let traded := routedTradesAfter ⟨7, [8, 0, 5], "", none⟩
      [⟨8, [1, 3, 0], "3DbEuZHcyqBD", some 2⟩, ⟨8, [4, 2, 5], "3gFAscqFEt1m", some 2⟩]
    let idle := routedTradesAfter ⟨6, [], "", none⟩ []
    (candidates ⟨.standard, traded, traded.transfers⟩).length = 3 ∧
      (candidates ⟨.standard, idle, idle.transfers⟩).length = 2 ∧
      (candidatesAt ⟨.standard, idle, idle.transfers⟩ 1).length = 2 ∧
      candidatesAt ⟨.standard, traded, traded.transfers⟩ 1 =
        candidatesAt ⟨.standard, idle, idle.transfers⟩ 1 :=
  ⟨by decide +kernel, by decide +kernel, by decide +kernel,
    (candidates_independent (by decide +kernel)
      ((Transaction.pairwise_transfers _).imp fun before => before.le)
      ((Transaction.pairwise_transfers _).imp fun before => before.le)
      (by decide +kernel) (by decide +kernel) (by decide +kernel)).1⟩

end Detection

end SwapLedger
