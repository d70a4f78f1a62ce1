import SwapLedger.Detection
import SwapLedger.Proofs.InvocationRanges
import SwapLedger.Proofs.Reconstruction

/-!
# Windows

The search for swaps cuts two slices for every instruction that it visits: a window of the
transfers, and the range of the group that the instruction invoked. This file describes a single
visit and then, by induction over the group, all visits of a transaction: where the slices start and
end, and how the cursor moves between them.
-/

namespace SwapLedger

namespace Transaction

/-- The range of its group that the instruction at a position invoked: the whole group, if it is a
top-level instruction. -/
def invokedRange (transaction : Transaction) (position : Position) : Nat × Nat :=
  match position.inner with
  | none => (0, (transaction.invokedBy position.outer).length)
  | some index => (transaction.invocationTree position.outer).descendants index

@[simp]
theorem length_parents_invocationTree (transaction : Transaction) (outer : Nat) :
    (transaction.invocationTree outer).parents.length = (transaction.invokedBy outer).length := by
  simp [invocationTree]

theorem invokedRange_fst_le_snd (transaction : Transaction) (position : Position) :
    (transaction.invokedRange position).1 ≤ (transaction.invokedRange position).2 := by
  rcases position with ⟨outer, _ | index⟩
  · exact Nat.zero_le _
  · exact InvocationTree.descendants_fst_le_snd _ index

theorem invokedRange_snd_le (transaction : Transaction) (position : Position) :
    (transaction.invokedRange position).2 ≤ (transaction.invokedBy position.outer).length := by
  rcases position with ⟨outer, _ | index⟩
  · exact Nat.le_refl _
  · rw [← transaction.length_parents_invocationTree]
    exact InvocationTree.descendants_snd_le _ index

end Transaction

namespace Detection

variable (detection : Detection)

/-- The search gets the transfers in strict execution order. -/
def Ordered : Prop :=
  detection.transfers.Pairwise fun earlier later => earlier.position < later.position

/-- The detection that reads the swaps of a transaction gets its transfers in order. -/
theorem ordered_transfers (registry : Registry) (transaction : Transaction) :
    Ordered ⟨registry, transaction, transaction.transfers⟩ :=
  transaction.pairwise_transfers

/-! ## Slices and partition points -/

theorem length_take_drop {α : Type*} {list : List α} {start stop : Nat}
    (stop_le : stop ≤ list.length) :
    ((list.drop start).take (stop - start)).length = stop - start := by
  simp only [List.length_take, List.length_drop]
  omega

/-- A slice that goes on further is the slice and what follows it. -/
theorem take_drop_append {α : Type*} (list : List α) {start stop later : Nat}
    (start_le : start ≤ stop) (stop_le : stop ≤ later) :
    (list.drop start).take (later - start) =
      (list.drop start).take (stop - start) ++ (list.drop stop).take (later - stop) := by
  have split : later - start = (stop - start) + (later - stop) := by omega
  rw [split, List.take_add, List.drop_drop, Nat.add_sub_cancel' start_le]

theorem madeBefore_le_length (position : Position) :
    detection.madeBefore position ≤ detection.transfers.length :=
  (List.takeWhile_sublist _).length_le

theorem length_takeWhile_le_of_imp {α : Type*} {narrow wide : α → Bool}
    (imp : ∀ element, narrow element → wide element) (list : List α) :
    (list.takeWhile narrow).length ≤ (list.takeWhile wide).length := by
  induction list with
  | nil => exact Nat.le_refl _
  | cons head rest ih =>
      by_cases taken : narrow head
      · simpa [taken, imp head taken] using ih
      · simp [taken]

theorem madeBefore_mono {first second : Position} (le : first ≤ second) :
    detection.madeBefore first ≤ detection.madeBefore second := by
  apply length_takeWhile_le_of_imp
  intro transfer before
  rw [decide_eq_true_eq] at before ⊢
  exact lt_of_lt_of_le before le

/-- In an ordered list the transfers made before a position are those that stand before the
partition point. -/
theorem lt_madeBefore_iff {detection : Detection} (ordered : detection.Ordered)
    {position : Position} {place : Nat} {transfer : Transfer}
    (stands : detection.transfers[place]? = some transfer) :
    place < detection.madeBefore position ↔ transfer.position < position := by
  rw [Ordered] at ordered
  rw [madeBefore, countWhile]
  generalize detection.transfers = transfers at ordered stands
  induction transfers generalizing place with
  | nil => simp at stands
  | cons head rest ih =>
      rw [List.pairwise_cons] at ordered
      rcases ordered with ⟨head_lt, ordered⟩
      rcases place with _ | place
      · simp only [List.getElem?_cons_zero, Option.some.injEq] at stands
        subst transfer
        by_cases before : head.position < position <;> simp [before]
      · rw [List.getElem?_cons_succ] at stands
        by_cases before : head.position < position
        · simpa [before] using ih ordered stands
        · have after : ¬transfer.position < position := fun transferBefore =>
            before (lt_trans (head_lt transfer (List.mem_of_getElem? stands)) transferBefore)
          simp [before, after]

/-- In an ordered list no two transfers stand at one position. -/
theorem Ordered.position_lt {detection : Detection} (ordered : detection.Ordered)
    {place later : Nat} {transfer other : Transfer} (before : place < later)
    (stands : detection.transfers[place]? = some transfer)
    (otherStands : detection.transfers[later]? = some other) :
    transfer.position < other.position := by
  rcases List.getElem?_eq_some_iff.mp stands with ⟨_, rfl⟩
  rcases List.getElem?_eq_some_iff.mp otherStands with ⟨_, rfl⟩
  exact List.pairwise_iff_getElem.mp ordered _ _ _ _ before

/-! ## A single visit -/

section Visit

variable {detection} {instruction : Instruction} {position : Position}
  {invoked group : List Instruction} {invokedStart first past start stop : Nat} {run : MatchRun}

/-- An instruction is read by the entry of its program, if it passes the gate and does not report an
event. -/
theorem reading?_eq_some {entry : RegistryEntry} :
    detection.reading? instruction = some entry ↔
      ∃ program, instruction.programAddress? detection.table = some program ∧
        detection.registry.get? program = some entry ∧
        entry.gate.permits detection.table instruction ∧
        ¬TradeEvent.selfInvocationTag <+: instruction.payload := by
  simp only [reading?, Option.bind_eq_bind, Option.bind_eq_some_iff, ← List.isPrefixOf_iff_prefix]
  constructor
  · rintro ⟨program, named, registered, found, made⟩
    split_ifs at made with rejected event
    cases made
    exact ⟨program, named, found, by simpa using rejected, event⟩
  · rintro ⟨program, named, found, permitted, noEvent⟩
    exact ⟨program, named, entry, found, by simp [permitted, noEvent]⟩

/-- A run is given the two slices, and finds what the matcher of its entry finds in them. -/
theorem run?_eq_some :
    detection.run? instruction position invoked invokedStart start stop = some run ↔
      ∃ entry, detection.reading? instruction = some entry ∧
        run.context = ⟨entry.protocol, detection.table, instruction, position,
          detection.windowBetween start stop, invoked, invokedStart⟩ ∧
        run.start = start ∧ run.outcome = entry.matcher run.context := by
  simp only [run?, Option.map_eq_some_iff]
  constructor
  · rintro ⟨entry, reads, rfl⟩
    exact ⟨entry, reads, rfl, rfl, rfl⟩
  · rintro ⟨entry, reads, context, starts, outcome⟩
    refine ⟨entry, reads, ?_⟩
    rcases run with ⟨runContext, runStart, runOutcome⟩
    simp_all

theorem length_windowBetween (stop_le : stop ≤ detection.transfers.length) :
    (detection.windowBetween start stop).length = stop - start :=
  length_take_drop stop_le

theorem getElem?_windowBetween {place : Nat} {transfer : Transfer}
    (stands : (detection.windowBetween start stop)[place]? = some transfer) :
    detection.transfers[start + place]? = some transfer ∧ start + place < stop := by
  rw [windowBetween, List.getElem?_take] at stands
  split_ifs at stands with inside
  rw [List.getElem?_drop] at stands
  exact ⟨stands, by omega⟩

/-- A window that starts behind a partition point has only transfers that were not made before. -/
theorem le_position_of_mem_windowBetween (ordered : detection.Ordered) {transfer : Transfer}
    (made_le : detection.madeBefore position ≤ start)
    (member : transfer ∈ detection.windowBetween start stop) : position ≤ transfer.position := by
  rcases List.getElem?_of_mem member with ⟨place, stands⟩
  rcases getElem?_windowBetween stands with ⟨stands, _⟩
  rw [← not_lt, ← lt_madeBefore_iff ordered stands]
  omega

end Visit

/-- A visit fits into a transaction: its slices have their ends in order, the range of the group is
the one that the instruction invoked, the window lies inside the transfers of the top-level
instruction and, for an invoked instruction, inside those of what it invoked itself, and if a
matcher ran, it saw just these slices. -/
structure Fits (visit : Visit) (instruction : Instruction) : Prop where
  stands : detection.transaction.instructionAt? visit.position = some instruction
  range : (visit.first, visit.past) = detection.transaction.invokedRange visit.position
  scope_le_start : detection.madeBefore (.topLevel visit.position.outer) ≤ visit.start
  start_le_stop : visit.start ≤ visit.stop
  stop_le_scope : visit.stop ≤ detection.madeBefore (.topLevel (visit.position.outer + 1))
  invoked_le_start : visit.position.inner ≠ none →
    detection.madeBefore (.invoked visit.position.outer visit.first) ≤ visit.start
  stop_le_invoked : visit.position.inner ≠ none →
    visit.stop ≤ max (detection.madeBefore (.invoked visit.position.outer visit.past)) visit.start
  ran : visit.run = detection.run? instruction visit.position
    (((detection.transaction.invokedBy visit.position.outer).drop visit.first).take
      (visit.past - visit.first)) visit.first visit.start visit.stop

namespace Fits

variable {detection} {visit : Visit} {instruction : Instruction} {place : Nat} {transfer : Transfer}
  (fits : detection.Fits visit instruction)

include fits

theorem stop_le_length : visit.stop ≤ detection.transfers.length :=
  fits.stop_le_scope.trans (detection.madeBefore_le_length _)

theorem first_le_past : visit.first ≤ visit.past := by
  have ordered := detection.transaction.invokedRange_fst_le_snd visit.position
  rwa [← fits.range] at ordered

theorem past_le_length :
    visit.past ≤ (detection.transaction.invokedBy visit.position.outer).length := by
  have bounded := detection.transaction.invokedRange_snd_le visit.position
  rwa [← fits.range] at bounded

/-- A visit claims transfers of its window only. -/
theorem start_add_claimed_le : visit.start + visit.claimed ≤ visit.stop := by
  have start_le := fits.start_le_stop
  cases ran : visit.run with
  | none => simpa [Visit.claimed, ran] using start_le
  | some run =>
      rcases run?_eq_some.mp (fits.ran ▸ ran) with ⟨_, _, context, _, _⟩
      have window_length : run.context.window.length = visit.stop - visit.start := by
        rw [context]
        exact length_windowBetween fits.stop_le_length
      simp only [Visit.claimed, ran, Option.map_some, Option.getD_some, MatchRun.claimed]
      omega

/-- The window lies inside the transfers of its own top-level instruction: those of earlier ones
stand before it, and those of later ones do not stand before its end. -/
theorem window_in_scope (ordered : detection.Ordered)
    (stands : detection.transfers[place]? = some transfer) :
    (transfer.position.outer < visit.position.outer → place < visit.start) ∧
      (visit.position.outer < transfer.position.outer → visit.stop ≤ place) := by
  constructor
  · intro before
    have made : place < detection.madeBefore (.topLevel visit.position.outer) :=
      (lt_madeBefore_iff ordered stands).mpr (Position.lt_topLevel_iff.mpr before)
    exact made.trans_le fits.scope_le_start
  · intro after
    have notMade : ¬place < detection.madeBefore (.topLevel (visit.position.outer + 1)) := by
      rw [lt_madeBefore_iff ordered stands, Position.lt_topLevel_iff]
      omega
    exact fits.stop_le_scope.trans (Nat.le_of_not_lt notMade)

/-- The transfers of a window were made under the top-level instruction of the visit. -/
theorem outer_of_mem_window (ordered : detection.Ordered)
    (stands : detection.transfers[place]? = some transfer)
    (start_le : visit.start ≤ place) (lt_stop : place < visit.stop) :
    transfer.position.outer = visit.position.outer := by
  rcases fits.window_in_scope ordered stands with ⟨notBefore, notAfter⟩
  by_contra other
  rcases Nat.lt_or_gt_of_ne other with before | after
  · exact absurd (notBefore before) (by omega)
  · exact absurd (notAfter after) (by omega)

/-- The transfers in the window of an invoked instruction were made by what it invoked. -/
theorem invoked_of_mem_window (ordered : detection.Ordered) (inner : visit.position.inner ≠ none)
    (stands : detection.transfers[place]? = some transfer)
    (start_le : visit.start ≤ place) (lt_stop : place < visit.stop) :
    ∃ index, visit.first ≤ index ∧ index < visit.past ∧
      transfer.position = .invoked visit.position.outer index := by
  have first_le := fits.invoked_le_start inner
  have stop_le := fits.stop_le_invoked inner
  apply Position.exists_invoked_of_between
  · rw [← lt_madeBefore_iff ordered stands]
    omega
  · rw [← lt_madeBefore_iff ordered stands]
    omega

end Fits

end Detection

/-! ## The cursor -/

namespace Visit

variable {visit : Visit} {cursor : Nat}

/-- The cursor never moves back. -/
theorem le_cursorAfter (le_start : cursor ≤ visit.start) : cursor ≤ visit.cursorAfter cursor := by
  rw [cursorAfter]
  split
  · exact Nat.le_refl _
  · split_ifs
    · exact Nat.le_refl _
    · exact le_start.trans (Nat.le_add_right _ _)

/-- The cursor stays where it was, or moves to the end of what the visit claimed. -/
theorem cursorAfter_cases (visit : Visit) (cursor : Nat) :
    visit.cursorAfter cursor = cursor ∧ visit.claimed = 0 ∨
      visit.cursorAfter cursor = visit.start + visit.claimed := by
  cases ran : visit.run with
  | none => exact Or.inl (by simp [cursorAfter, claimed, ran])
  | some run =>
      by_cases nothing : run.outcome.consumed = 0
      · exact Or.inl (by simp [cursorAfter, claimed, ran, MatchRun.claimed, nothing])
      · exact Or.inr (by simp [cursorAfter, claimed, ran, nothing])

end Visit

namespace Detection

variable {detection : Detection} {instruction : Instruction} {visit : Visit}
  {outer index cursor : Nat} {rest : List (Instruction × Nat)}

/-- The cursor stands among the transfers of a top-level instruction. -/
def InScope (detection : Detection) (outer cursor : Nat) : Prop :=
  detection.madeBefore (.topLevel outer) ≤ cursor ∧
    cursor ≤ detection.madeBefore (.topLevel (outer + 1))

theorem Fits.inScope_cursorAfter (fits : detection.Fits visit instruction)
    (inScope : detection.InScope visit.position.outer cursor) :
    detection.InScope visit.position.outer (visit.cursorAfter cursor) := by
  have start_ge := fits.scope_le_start
  have claimed_le := fits.start_add_claimed_le.trans fits.stop_le_scope
  rcases visit.cursorAfter_cases cursor with ⟨stays, _⟩ | moves
  · rwa [stays]
  · rw [moves]
    exact ⟨start_ge.trans (Nat.le_add_right _ _), claimed_le⟩

variable (detection) in
/-- The visit of the instruction at a place of a group of the transaction. -/
def visitOf (outer cursor : Nat) (instruction : Instruction) (index : Nat) : Visit :=
  detection.innerVisit outer (detection.transaction.invokedBy outer)
    (detection.transaction.invocationTree outer) cursor instruction index

@[simp]
theorem position_visitOf :
    (detection.visitOf outer cursor instruction index).position = .invoked outer index := rfl

theorem start_visitOf : (detection.visitOf outer cursor instruction index).start =
    max (detection.madeBefore (.invoked outer
      ((detection.transaction.invocationTree outer).descendants index).1)) cursor := rfl

theorem le_start_visitOf : cursor ≤ (detection.visitOf outer cursor instruction index).start :=
  Nat.le_max_right _ _

/-- Windows of later instructions do not start earlier. -/
theorem start_visitOf_mono {other : Instruction} {otherIndex later : Nat}
    (index_le : index ≤ otherIndex) (cursor_le : cursor ≤ later) :
    (detection.visitOf outer cursor instruction index).start ≤
      (detection.visitOf outer later other otherIndex).start := by
  rw [start_visitOf, start_visitOf]
  apply max_le_max _ cursor_le
  apply detection.madeBefore_mono
  apply Position.invoked_le_invoked
  rw [InvocationTree.descendants_fst, InvocationTree.descendants_fst]
  omega

/-- A window of an invoked instruction that starts at the cursor fits in. -/
theorem fits_visitOf (outer_lt : outer < detection.transaction.instructions.length)
    (stands : (detection.transaction.invokedBy outer)[index]? = some instruction)
    (inScope : detection.InScope outer cursor) :
    detection.Fits (detection.visitOf outer cursor instruction index) instruction where
  stands := by
    rw [position_visitOf, Transaction.instructionAt?_eq_some]
    exact Or.inr ⟨outer, index, rfl, outer_lt, stands⟩
  range := rfl
  scope_le_start := inScope.1.trans le_start_visitOf
  start_le_stop := Nat.le_max_right _ _
  stop_le_scope := by
    have made_le (place : Nat) : detection.madeBefore (.invoked outer place) ≤
        detection.madeBefore (.topLevel (outer + 1)) :=
      detection.madeBefore_mono (Position.invoked_lt_next outer place).le
    exact Nat.max_le.mpr ⟨made_le _, Nat.max_le.mpr ⟨made_le _, inScope.2⟩⟩
  invoked_le_start _ := Nat.le_max_left _ _
  stop_le_invoked _ := Nat.le_refl _
  ran := rfl

/-- Every visit below a top-level instruction is one of an instruction of its group, made with a
cursor that has not left the scope. Each visit hands a new cursor to the rest of the group, and that
it stays in scope carries over. -/
theorem mem_innerVisits (outer_lt : outer < detection.transaction.instructions.length)
    (numbered : ∀ entry ∈ rest,
      (detection.transaction.invokedBy outer)[entry.2]? = some entry.1)
    (inScope : detection.InScope outer cursor)
    (member : visit ∈ detection.innerVisits outer (detection.transaction.invokedBy outer)
      (detection.transaction.invocationTree outer) cursor rest) :
    ∃ entry ∈ rest, ∃ later, cursor ≤ later ∧ detection.InScope outer later ∧
      visit = detection.visitOf outer later entry.1 entry.2 := by
  induction rest generalizing cursor with
  | nil => simp [innerVisits] at member
  | cons head rest ih =>
      rw [innerVisits, List.mem_cons] at member
      change visit = detection.visitOf outer cursor head.1 head.2 ∨ visit ∈ innerVisits _ _ _ _
        ((detection.visitOf outer cursor head.1 head.2).cursorAfter cursor) _ at member
      have fits := fits_visitOf outer_lt (numbered head List.mem_cons_self) inScope
      rcases member with rfl | member
      · exact ⟨head, List.mem_cons_self, cursor, Nat.le_refl _, inScope, rfl⟩
      · rcases ih (fun entry entryMem => numbered entry (List.mem_cons_of_mem _ entryMem))
          (fits.inScope_cursorAfter inScope) member with ⟨entry, entryMem, later, le_later, rest⟩
        exact ⟨entry, List.mem_cons_of_mem _ entryMem, later,
          (Visit.le_cursorAfter le_start_visitOf).trans le_later, rest⟩

/-- Below a top-level instruction every visit starts at or after the end of what earlier ones
claimed. -/
theorem pairwise_innerVisits (outer_lt : outer < detection.transaction.instructions.length)
    (numbered : ∀ entry ∈ rest,
      (detection.transaction.invokedBy outer)[entry.2]? = some entry.1)
    (ascending : rest.Pairwise fun earlier later => earlier.2 < later.2)
    (inScope : detection.InScope outer cursor) :
    (detection.innerVisits outer (detection.transaction.invokedBy outer)
      (detection.transaction.invocationTree outer) cursor rest).Pairwise fun earlier later =>
        earlier.start + earlier.claimed ≤ later.start := by
  induction rest generalizing cursor with
  | nil => simp [innerVisits]
  | cons head rest ih =>
      rw [List.pairwise_cons] at ascending
      rcases ascending with ⟨head_lt, ascending⟩
      have restNumbered := fun entry (entryMem : entry ∈ rest) =>
        numbered entry (List.mem_cons_of_mem _ entryMem)
      have fits := fits_visitOf outer_lt (numbered head List.mem_cons_self) inScope
      have restInScope := fits.inScope_cursorAfter inScope
      rw [innerVisits, List.pairwise_cons]
      refine ⟨?_, ih restNumbered ascending restInScope⟩
      intro visit member
      change (detection.visitOf outer cursor head.1 head.2).start +
        (detection.visitOf outer cursor head.1 head.2).claimed ≤ _
      rcases mem_innerVisits outer_lt restNumbered restInScope member with
        ⟨entry, entryMem, later, le_later, _, rfl⟩
      rcases (detection.visitOf outer cursor head.1 head.2).cursorAfter_cases cursor with
        ⟨stays, nothing⟩ | moves
      · rw [nothing, Nat.add_zero]
        exact start_visitOf_mono (head_lt entry entryMem).le (stays ▸ le_later)
      · exact (moves ▸ le_later).trans le_start_visitOf

/-! ## All visits -/

theorem start_ownVisit :
    (detection.ownVisit instruction outer).start = detection.madeBefore (.topLevel outer) := by
  simp only [ownVisit, visit, madeBefore, Position.lt_topLevel_iff]

theorem stop_ownVisit : (detection.ownVisit instruction outer).stop =
    detection.madeBefore (.topLevel (outer + 1)) := by
  simp only [ownVisit, visit, madeBefore, Position.lt_topLevel_iff, Nat.lt_succ_iff]

@[simp]
theorem position_ownVisit :
    (detection.ownVisit instruction outer).position = .topLevel outer := rfl

/-- The window of a top-level instruction are all transfers that were made while it ran. -/
theorem fits_ownVisit (stands : detection.transaction.instructions[outer]? = some instruction) :
    detection.Fits (detection.ownVisit instruction outer) instruction where
  stands := by
    rw [position_ownVisit, Transaction.instructionAt?_eq_some]
    exact Or.inl ⟨outer, rfl, stands⟩
  range := rfl
  scope_le_start := start_ownVisit.ge
  start_le_stop := by
    rw [start_ownVisit, stop_ownVisit]
    exact detection.madeBefore_mono (Position.topLevel_le_topLevel (Nat.le_succ outer))
  stop_le_scope := stop_ownVisit.le
  invoked_le_start invoked := absurd rfl invoked
  stop_le_invoked invoked := absurd rfl invoked
  ran := rfl

theorem inScope_ownVisit (stands : detection.transaction.instructions[outer]? = some instruction) :
    detection.InScope outer ((detection.ownVisit instruction outer).start +
      (detection.ownVisit instruction outer).claimed) := by
  have fits := fits_ownVisit stands
  exact ⟨fits.scope_le_start.trans (Nat.le_add_right _ _),
    fits.start_add_claimed_le.trans fits.stop_le_scope⟩

theorem numbered_zipIdx {group : List Instruction} :
    ∀ entry ∈ group.zipIdx, group[entry.2]? = some entry.1 :=
  fun _ => List.mem_zipIdx_iff_getElem?.mp

/-- The visits under one top-level instruction: its own, and those of the instructions of its group,
which start at or after the end of what it claimed. -/
theorem mem_visitsAt (stands : detection.transaction.instructions[outer]? = some instruction)
    (member : visit ∈ detection.visitsAt instruction outer) :
    visit = detection.ownVisit instruction outer ∨
      ∃ index invoked cursor, (detection.transaction.invokedBy outer)[index]? = some invoked ∧
        (detection.ownVisit instruction outer).start +
          (detection.ownVisit instruction outer).claimed ≤ cursor ∧
        detection.InScope outer cursor ∧
        visit = detection.visitOf outer cursor invoked index := by
  rw [visitsAt, List.mem_cons] at member
  rcases member with rfl | member
  · exact Or.inl rfl
  · have outer_lt := (List.getElem?_eq_some_iff.mp stands).1
    rcases mem_innerVisits outer_lt numbered_zipIdx (inScope_ownVisit stands) member with
      ⟨entry, entryMem, cursor, le_cursor, inScope, rfl⟩
    exact Or.inr ⟨entry.2, entry.1, cursor, numbered_zipIdx entry entryMem, le_cursor, inScope, rfl⟩

theorem fits_of_mem_visitsAt
    (stands : detection.transaction.instructions[outer]? = some instruction)
    (member : visit ∈ detection.visitsAt instruction outer) :
    visit.position.outer = outer ∧ ∃ visited, detection.Fits visit visited := by
  rcases mem_visitsAt stands member with rfl | ⟨index, invoked, cursor, place, _, inScope, rfl⟩
  · exact ⟨rfl, instruction, fits_ownVisit stands⟩
  · exact ⟨rfl, invoked, fits_visitOf (List.getElem?_eq_some_iff.mp stands).1 place inScope⟩

theorem pairwise_visitsAt
    (stands : detection.transaction.instructions[outer]? = some instruction) :
    (detection.visitsAt instruction outer).Pairwise fun earlier later =>
      earlier.start + earlier.claimed ≤ later.start := by
  have outer_lt := (List.getElem?_eq_some_iff.mp stands).1
  have inScope := inScope_ownVisit stands
  rw [visitsAt, List.pairwise_cons]
  refine ⟨?_, pairwise_innerVisits outer_lt numbered_zipIdx (pairwise_snd_zipIdx _ 0) inScope⟩
  intro visit member
  rcases mem_innerVisits outer_lt numbered_zipIdx inScope member with
    ⟨entry, _, cursor, le_cursor, _, rfl⟩
  exact le_cursor.trans le_start_visitOf

/-- Every visit of a transaction fits into it. -/
theorem fits_of_mem_visits (member : visit ∈ detection.visits) :
    ∃ visited, detection.Fits visit visited := by
  simp only [visits, List.mem_flatMap, Prod.exists, List.mk_mem_zipIdx_iff_getElem?] at member
  rcases member with ⟨instruction, outer, stands, member⟩
  exact (fits_of_mem_visitsAt stands member).2

variable (detection) in
/-- Over the whole transaction every visit starts at or after the end of what earlier ones
claimed. -/
theorem pairwise_visits :
    detection.visits.Pairwise fun earlier later =>
      earlier.start + earlier.claimed ≤ later.start := by
  rw [visits, List.pairwise_flatMap]
  constructor
  · rintro ⟨instruction, outer⟩ member
    exact pairwise_visitsAt (List.mk_mem_zipIdx_iff_getElem?.mp member)
  · apply (pairwise_snd_zipIdx _ 0).imp_of_mem
    rintro ⟨first, outer⟩ ⟨second, laterOuter⟩ firstMem secondMem before
      earlier earlierMem later laterMem
    rcases fits_of_mem_visitsAt (List.mk_mem_zipIdx_iff_getElem?.mp firstMem) earlierMem with
      ⟨earlierOuter, _, earlierFits⟩
    rcases fits_of_mem_visitsAt (List.mk_mem_zipIdx_iff_getElem?.mp secondMem) laterMem with
      ⟨laterOuter, _, laterFits⟩
    calc
      earlier.start + earlier.claimed ≤ earlier.stop := earlierFits.start_add_claimed_le
      _ ≤ detection.madeBefore (.topLevel (earlier.position.outer + 1)) :=
        earlierFits.stop_le_scope
      _ ≤ detection.madeBefore (.topLevel later.position.outer) :=
        detection.madeBefore_mono (Position.topLevel_le_topLevel (by omega))
      _ ≤ later.start := laterFits.scope_le_start

end Detection

end SwapLedger
