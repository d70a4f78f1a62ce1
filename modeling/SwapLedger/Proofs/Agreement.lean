import Mathlib.Data.List.Basic
import SwapLedger.Proofs.Windows

/-!
# Searches side by side

What a search finds is the list of its outcomes. To compare two searches they are followed visit by
visit: as long as their matchers find the same and their cursors stay related, the outcomes are the
same. Which relation that is depends on the pair of searches; where the same transfers stand at the
same places, it is equality.
-/

namespace SwapLedger

namespace Visit

variable {left right : Visit}

/-- What the matcher of the visited instruction found, if it ran. -/
def outcome? (visit : Visit) : Option MatchOutcome := visit.run.map (·.outcome)

/-- Two visits agree if their windows start at the same transfer, their matchers found the same, and
they claim as many transfers. -/
structure Agrees (left right : Visit) : Prop where
  start_eq : left.start = right.start
  outcome_eq : left.outcome? = right.outcome?
  claimed_eq : left.claimed = right.claimed

theorem cursorAfter_eq (visit : Visit) (cursor : Nat) : visit.cursorAfter cursor =
    match visit.outcome? with
    | none => cursor
    | some outcome => if outcome.consumed = 0 then cursor else visit.start + visit.claimed := by
  cases ran : visit.run <;> simp [cursorAfter, outcome?, claimed, ran]

/-- Visits that agree move the cursor to the same place. -/
theorem Agrees.cursorAfter_eq (agrees : left.Agrees right) (cursor : Nat) :
    left.cursorAfter cursor = right.cursorAfter cursor := by
  rw [Visit.cursorAfter_eq, Visit.cursorAfter_eq, agrees.outcome_eq, agrees.start_eq,
    agrees.claimed_eq]

end Visit

namespace Detection

section Visit

variable {detection : Detection} {instruction : Instruction} {position : Position}
  {group : List Instruction} {outer index cursor first past start stop : Nat}

variable (detection) in
/-- What the matcher of a visited instruction gets to see. -/
def contextOf (protocol : Protocol) (instruction : Instruction) (position : Position)
    (group : List Instruction) (first past start stop : Nat) : MatchContext :=
  ⟨protocol, detection.table, instruction, position, detection.windowBetween start stop,
    (group.drop first).take (past - first), first⟩

@[simp]
theorem start_visit :
    (detection.visit instruction position group first past start stop).start = start := rfl

theorem run_visit {entry : RegistryEntry} (reads : detection.reading? instruction = some entry) :
    (detection.visit instruction position group first past start stop).run =
      some ⟨detection.contextOf entry.protocol instruction position group first past start stop,
        start, entry.matcher (detection.contextOf entry.protocol instruction position group first
          past start stop)⟩ := by
  rw [visit, run?, reads]
  rfl

theorem outcome?_visit :
    (detection.visit instruction position group first past start stop).outcome? =
      (detection.reading? instruction).map fun entry =>
        entry.matcher (detection.contextOf entry.protocol instruction position group first past
          start stop) := by
  cases reads : detection.reading? instruction with
  | none => simp [Visit.outcome?, visit, run?, reads]
  | some entry => simp [Visit.outcome?, run_visit reads]

/-- A visit claims what its matcher has used up, but no more than its window holds. -/
theorem claimed_visit :
    (detection.visit instruction position group first past start stop).claimed =
      ((detection.visit instruction position group first past start stop).outcome?.map
        fun outcome =>
          min outcome.consumed (detection.windowBetween start stop).length).getD 0 := by
  cases reads : detection.reading? instruction with
  | none => simp [Visit.claimed, Visit.outcome?, visit, run?, reads]
  | some entry =>
      simp [Visit.claimed, Visit.outcome?, run_visit reads, MatchRun.claimed, contextOf]

theorem visitOf_eq (range : (detection.transaction.invocationTree outer).descendants index =
    (first, past)) : detection.visitOf outer cursor instruction index =
      detection.visit instruction (.invoked outer index) (detection.transaction.invokedBy outer)
        first past (max (detection.madeBefore (.invoked outer first)) cursor)
        (max (detection.madeBefore (.invoked outer past))
          (max (detection.madeBefore (.invoked outer first)) cursor)) := by
  rw [visitOf, innerVisit, range]

end Visit

/-! ## Below one top-level instruction -/

variable {detection first second : Detection} {instruction : Instruction}
  {outer cursor other : Nat} {rest : List (Instruction × Nat)}

variable (detection) in
/-- The visits of some instructions of a group of the transaction, given the first free transfer. -/
def visitsFrom (outer cursor : Nat) (rest : List (Instruction × Nat)) : List Visit :=
  detection.innerVisits outer (detection.transaction.invokedBy outer)
    (detection.transaction.invocationTree outer) cursor rest

theorem visitsFrom_cons {entry : Instruction × Nat} :
    detection.visitsFrom outer cursor (entry :: rest) =
      detection.visitOf outer cursor entry.1 entry.2 ::
        detection.visitsFrom outer
          ((detection.visitOf outer cursor entry.1 entry.2).cursorAfter cursor) rest := rfl

theorem visitsAt_eq : detection.visitsAt instruction outer =
    detection.ownVisit instruction outer ::
      detection.visitsFrom outer ((detection.ownVisit instruction outer).start +
        (detection.ownVisit instruction outer).claimed)
        (detection.transaction.invokedBy outer).zipIdx := rfl

/-- Two searches find the same below a top-level instruction, if in every step related cursors give
the same outcome and stay related. It is that relation which carries the induction. -/
theorem filterMap_outcome?_visitsFrom {related : Nat → Nat → Prop}
    {move : Instruction × Nat → Instruction × Nat}
    (step : ∀ entry ∈ rest, ∀ cursor other, related cursor other →
      (second.visitOf outer other (move entry).1 (move entry).2).outcome? =
          (first.visitOf outer cursor entry.1 entry.2).outcome? ∧
        related ((first.visitOf outer cursor entry.1 entry.2).cursorAfter cursor)
          ((second.visitOf outer other (move entry).1 (move entry).2).cursorAfter other))
    (start : related cursor other) :
    (second.visitsFrom outer other (rest.map move)).filterMap Visit.outcome? =
      (first.visitsFrom outer cursor rest).filterMap Visit.outcome? := by
  induction rest generalizing cursor other with
  | nil => rfl
  | cons head rest ih =>
      rcases step head List.mem_cons_self cursor other start with ⟨sameOutcome, next⟩
      have sameRest := ih (fun entry member => step entry (List.mem_cons_of_mem _ member)) next
      rw [List.map_cons, visitsFrom_cons, visitsFrom_cons, List.filterMap_cons,
        List.filterMap_cons, sameOutcome, sameRest]

/-- Where visits agree from equal cursors, the searches find the same. -/
theorem filterMap_outcome?_visitsFrom_of_agrees {move : Instruction × Nat → Instruction × Nat}
    (agrees : ∀ entry ∈ rest, ∀ cursor,
      (second.visitOf outer cursor (move entry).1 (move entry).2).Agrees
        (first.visitOf outer cursor entry.1 entry.2)) :
    (second.visitsFrom outer cursor (rest.map move)).filterMap Visit.outcome? =
      (first.visitsFrom outer cursor rest).filterMap Visit.outcome? := by
  refine filterMap_outcome?_visitsFrom (fun entry member cursor other same => ?_) rfl
  subst same
  have entryAgrees := agrees entry member cursor
  exact ⟨entryAgrees.outcome_eq, (entryAgrees.cursorAfter_eq cursor).symm⟩

/-- Instructions that are not read as those of an exchange can be passed over. -/
theorem filterMap_outcome?_visitsFrom_filter :
    (detection.visitsFrom outer cursor
      (rest.filter fun entry => (detection.reading? entry.1).isSome)).filterMap Visit.outcome? =
      (detection.visitsFrom outer cursor rest).filterMap Visit.outcome? := by
  induction rest generalizing cursor with
  | nil => rfl
  | cons head rest ih =>
      by_cases reads : (detection.reading? head.1).isSome
      · rw [List.filter_cons, if_pos reads, visitsFrom_cons, visitsFrom_cons, List.filterMap_cons,
          List.filterMap_cons, ih]
      · rw [List.filter_cons, if_neg reads, ih, visitsFrom_cons]
        rw [Option.not_isSome_iff_eq_none] at reads
        have nothing : (detection.visitOf outer cursor head.1 head.2).outcome? = none := by
          rw [visitOf, innerVisit, outcome?_visit, reads, Option.map_none]
        rw [List.filterMap_cons_none nothing, Visit.cursorAfter_eq, nothing]

/-! ## The whole search -/

variable (detection) in
/-- What the matchers found under a top-level instruction. -/
def outcomesAt (instruction : Instruction) (outer : Nat) : List MatchOutcome :=
  (detection.visitsAt instruction outer).filterMap Visit.outcome?

theorem outcomesAt_eq : detection.outcomesAt instruction outer =
    (detection.ownVisit instruction outer).outcome?.toList ++
      (detection.visitsFrom outer ((detection.ownVisit instruction outer).start +
        (detection.ownVisit instruction outer).claimed)
        (detection.transaction.invokedBy outer).zipIdx).filterMap Visit.outcome? := by
  rw [outcomesAt, visitsAt_eq, List.filterMap_cons]
  cases (detection.ownVisit instruction outer).outcome? <;> rfl

theorem candidates_eq (detection : Detection) : detection.candidates =
    (detection.visits.map Visit.outcome?).filterMap fun outcome => outcome.bind (·.candidate) := by
  rw [candidates, runs, List.filterMap_filterMap, List.filterMap_map]
  congr 1
  funext visit
  simp only [Function.comp_apply, Visit.outcome?, Option.bind_map]

/-- The candidates are those that the matchers found under one top-level instruction after the
other. -/
theorem candidates_eq_flatMap (detection : Detection) : detection.candidates =
    detection.transaction.instructions.zipIdx.flatMap fun (instruction, outer) =>
      (detection.outcomesAt instruction outer).filterMap (·.candidate) := by
  rw [candidates_eq, visits, List.filterMap_map, List.filterMap_flatMap]
  apply List.flatMap_congr
  rintro ⟨instruction, outer⟩ _
  simp only [outcomesAt, List.filterMap_filterMap, Function.comp_def]

end Detection

end SwapLedger
