import SwapLedger.Proofs.Extension
import SwapLedger.Proofs.Mirroring

/-!
# Missing stack heights

Some nodes do not tell how deep in the stack an instruction ran. Then every instruction counts as
having invoked all that follows it in its group, so windows and ranges go on to the end of the
group. This file follows the search with and without the depths side by side: as long as every swap
is complete in what its own instruction invoked, both runs keep the same cursor and find the same
swaps.
-/

namespace SwapLedger

/-- The same instruction, with no depth recorded. -/
def Instruction.withoutHeight (instruction : Instruction) : Instruction :=
  { instruction with stackHeight := none }

/-- The same group, with no depths recorded. -/
def InnerGroup.withoutHeights (group : InnerGroup) : InnerGroup :=
  { group with instructions := group.instructions.map Instruction.withoutHeight }

namespace Transaction

/-- The same transaction, as a node delivers it that does not tell the depths of invoked
instructions. -/
def withoutHeights (transaction : Transaction) : Transaction :=
  { transaction with innerGroups := transaction.innerGroups.map InnerGroup.withoutHeights }

variable (transaction : Transaction) (outer : Nat)

@[simp]
theorem instructions_withoutHeights :
    transaction.withoutHeights.instructions = transaction.instructions := rfl

theorem innerGroups_withoutHeights : transaction.withoutHeights.innerGroups =
    transaction.innerGroups.map InnerGroup.withoutHeights := rfl

@[simp]
theorem invokedBy_withoutHeights : transaction.withoutHeights.invokedBy outer =
    (transaction.invokedBy outer).map Instruction.withoutHeight :=
  invokedBy_eq_map transaction.innerGroups_withoutHeights (fun _ => rfl) (fun _ => rfl) outer

/-- Without depths everything after an instruction counts as invoked by it. -/
theorem descendants_withoutHeights (index : Nat) :
    (transaction.withoutHeights.invocationTree outer).descendants index =
      (min (index + 1) (transaction.invokedBy outer).length,
        (transaction.invokedBy outer).length) := by
  have unknown : (transaction.withoutHeights.invocationTree outer).height? index = none := by
    rw [InvocationTree.height?, invocationTree, invokedBy_withoutHeights, List.map_map,
      InvocationTree.build]
    cases stands : (transaction.invokedBy outer)[index]? <;>
      simp [stands, Instruction.withoutHeight]
  rw [InvocationTree.descendants_of_height?_eq_none _ unknown, length_parents_invocationTree,
    invokedBy_withoutHeights, List.length_map]

end Transaction

/-! ## Transfers -/

namespace Evidence

variable (transaction : Transaction)

theorem filterMap_allInstructions_withoutHeights {α : Type} (read : Instruction → Option α)
    (blind : ∀ instruction : Instruction, read instruction.withoutHeight = read instruction) :
    transaction.withoutHeights.allInstructions.filterMap read =
      transaction.allInstructions.filterMap read := by
  have sameRead : read ∘ Instruction.withoutHeight = read := funext blind
  rw [Transaction.allInstructions_eq_map transaction.innerGroups_withoutHeights fun _ => rfl,
    Transaction.instructions_withoutHeights, List.filterMap_append, List.filterMap_map, sameRead,
    ← List.filterMap_append]
  rfl

/-- Instructions tell about accounts what they tell without depths. -/
theorem mirrors_withoutHeights :
    (ofTransaction transaction.withoutHeights).Mirrors (ofTransaction transaction) id :=
  mirrors_of_sameBalances rfl rfl rfl
    (filterMap_allInstructions_withoutHeights transaction _ fun _ => rfl)
    fun _ => filterMap_allInstructions_withoutHeights transaction _ fun _ => rfl

/-- What an instruction moved does not depend on depths. -/
theorem transfer?_withoutHeights (instruction : Instruction) (position : Position) :
    (ofTransaction transaction.withoutHeights).transfer? instruction position =
      (ofTransaction transaction).transfer? instruction position :=
  transfer?_eq_of_mirrors_id (mirrors_withoutHeights transaction)

end Evidence

/-- The transfers do not depend on depths. -/
theorem Transaction.transfers_withoutHeights (transaction : Transaction) :
    transaction.withoutHeights.transfers = transaction.transfers := by
  simp only [transfers, Evidence.transfersAt, Evidence.transfer?_withoutHeights,
    Evidence.transaction_ofTransaction, invokedBy_withoutHeights, List.zipIdx_map,
    List.filterMap_map, instructions_withoutHeights]
  rfl

/-! ## Single visits -/

namespace Detection

variable {detection : Detection} {instruction other : Instruction} {position : Position}
  {group : List Instruction} {first past further start stop later : Nat}

/-- The search in the same transaction and transfers, with no depths recorded. -/
def withoutHeights (detection : Detection) : Detection :=
  { detection with transaction := detection.transaction.withoutHeights }

@[simp]
theorem countWhile_withoutHeights (condition : Transfer → Bool) :
    detection.withoutHeights.countWhile condition = detection.countWhile condition := rfl

@[simp]
theorem madeBefore_withoutHeights (position : Position) :
    detection.withoutHeights.madeBefore position = detection.madeBefore position := rfl

/-- How an instruction is read does not depend on its depth. -/
theorem reading?_withoutHeights (same : other.withoutHeight = instruction.withoutHeight) :
    detection.withoutHeights.reading? other = detection.reading? instruction := by
  change detection.reading? other.withoutHeight = detection.reading? instruction.withoutHeight
  rw [same]

variable (detection) in
/-- The slices of a visit are continued to the right: the range of the group from `past` to
`further`, and the window from `stop` to `later`, with no transfer that was made before the range
ended. -/
structure Continued (position : Position) (group : List Instruction)
    (first past further start stop later : Nat) : Prop where
  first_le : first ≤ past
  past_le : past ≤ further
  past_le_length : past ≤ group.length
  start_le : start ≤ stop
  stop_le : stop ≤ later
  made_later : ∀ transfer ∈ detection.windowBetween stop later,
    Position.invoked position.outer past ≤ transfer.position

/-- Without depths the context of a matcher is wider: it goes on to the end of the group. -/
theorem extendsBy_withoutHeights (protocol : Protocol)
    (same : other.withoutHeight = instruction.withoutHeight)
    (continued : detection.Continued position group first past further start stop later) :
    (detection.withoutHeights.contextOf protocol other position
      (group.map Instruction.withoutHeight) first further start later).ExtendsBy
        (detection.contextOf protocol instruction position group first past start stop)
        (detection.windowBetween stop later)
        (((group.drop past).take (further - past)).map Instruction.payload) where
  protocol_eq := rfl
  account_eq place := by
    change other.withoutHeight.account? _ place = instruction.withoutHeight.account? _ place
    rw [same]
    rfl
  position_eq := rfl
  invokedStart_eq := rfl
  window_eq := take_drop_append _ continued.start_le continued.stop_le
  made_later transfer member := by
    rw [contextOf, length_take_drop continued.past_le_length,
      Nat.add_sub_cancel' continued.first_le]
    exact continued.made_later transfer member
  payloads_eq := by
    have samePayload : Instruction.payload ∘ Instruction.withoutHeight = Instruction.payload := rfl
    rw [contextOf, contextOf, ← List.map_drop, ← List.map_take, List.map_map, samePayload,
      take_drop_append group continued.first_le continued.past_le, List.map_append]

/-- A visit with wider slices agrees with the one it widens, if that one has found its swap or the
slices are not wider at all. Top-level slices are not, and inner ones are only behind a found swap.
-/
theorem agrees_visit_withoutHeights (builtIn : detection.registry.IsBuiltIn)
    (same : other.withoutHeight = instruction.withoutHeight)
    (continued : detection.Continued position group first past further start stop later)
    (settled : past = further ∧ stop = later ∨
      ∀ run ∈ (detection.visit instruction position group first past start stop).run,
        run.outcome.candidate ≠ none) :
    (detection.withoutHeights.visit other position (group.map Instruction.withoutHeight) first
      further start later).Agrees
        (detection.visit instruction position group first past start stop) := by
  have sameReading : detection.withoutHeights.reading? other = detection.reading? instruction :=
    reading?_withoutHeights same
  cases reads : detection.reading? instruction with
  | none =>
      rw [reads] at sameReading
      constructor <;> simp [visit, run?, Visit.outcome?, Visit.claimed, reads, sameReading]
  | some entry =>
      rw [reads] at sameReading
      rcases reading?_eq_some.mp reads with ⟨program, _, registered, _⟩
      rcases builtIn.exists_matcher_eq registered with ⟨protocol, matcher⟩
      have extension := extendsBy_withoutHeights entry.protocol same continued
      have ran : (detection.visit instruction position group first past start stop).run = _ :=
        run_visit reads
      have wideRan : (detection.withoutHeights.visit other position
          (group.map Instruction.withoutHeight) first further start later).run = _ :=
        run_visit sameReading
      rw [ran] at settled
      rw [matcher] at ran wideRan settled
      have settledMatch : detection.windowBetween stop later = [] ∧
          ((group.drop past).take (further - past)).map Instruction.payload = [] ∨
          (protocol.matcher (detection.contextOf entry.protocol instruction position group first
            past start stop)).candidate ≠ none := by
        apply settled.imp
        · rintro ⟨rfl, rfl⟩
          simp [windowBetween]
        · intro found
          exact found _ rfl
      refine ⟨rfl, ?_, ?_⟩
      · simp only [Visit.outcome?, wideRan, ran, Option.map_some,
          Protocol.matcher_eq_of_extendsBy extension settledMatch]
      · simp only [Visit.claimed, wideRan, ran, Option.map_some, Option.getD_some, MatchRun.claimed,
          Protocol.claimed_eq_of_extendsBy extension settledMatch]

/-! ## The whole search -/

variable {outer index cursor : Nat} {rest : List (Instruction × Nat)}

variable (detection) in
/-- Every swap is complete in what its own instruction invoked: wherever the matcher of an invoked
instruction ran, it found a swap. -/
def SelfContained : Prop :=
  ∀ visit ∈ detection.visits, visit.position.inner ≠ none →
    ∀ run ∈ visit.run, run.outcome.candidate ≠ none

instance (detection : Detection) : Decidable detection.SelfContained :=
  inferInstanceAs (Decidable (∀ visit ∈ detection.visits, visit.position.inner ≠ none →
    ∀ run ∈ visit.run, run.outcome.candidate ≠ none))

theorem invokedBy_withoutHeights : detection.withoutHeights.transaction.invokedBy outer =
    (detection.transaction.invokedBy outer).map Instruction.withoutHeight :=
  detection.transaction.invokedBy_withoutHeights outer

/-- Top-level instructions have the same slices anyway. -/
theorem agrees_ownVisit (builtIn : detection.registry.IsBuiltIn) :
    (detection.withoutHeights.ownVisit instruction outer).Agrees
      (detection.ownVisit instruction outer) := by
  have start_le : (detection.ownVisit instruction outer).start ≤
      (detection.ownVisit instruction outer).stop := by
    rw [start_ownVisit, stop_ownVisit]
    exact detection.madeBefore_mono (Position.topLevel_le_topLevel (Nat.le_succ outer))
  simp only [ownVisit, invokedBy_withoutHeights, List.length_map, countWhile_withoutHeights]
  refine agrees_visit_withoutHeights builtIn rfl ?_ (Or.inl ⟨rfl, rfl⟩)
  exact {
    first_le := Nat.zero_le _
    past_le := Nat.le_refl _
    past_le_length := Nat.le_refl _
    start_le := start_le
    stop_le := Nat.le_refl _
    made_later := by simp [windowBetween] }

/-- From the same cursor, an invoked instruction that has found its swap finds it without depths. -/
theorem agrees_visitOf (builtIn : detection.registry.IsBuiltIn) (ordered : detection.Ordered)
    (settled : ∀ run ∈ (detection.visitOf outer cursor instruction index).run,
      run.outcome.candidate ≠ none) :
    (detection.withoutHeights.visitOf outer cursor instruction.withoutHeight index).Agrees
      (detection.visitOf outer cursor instruction index) := by
  rcases range : (detection.transaction.invocationTree outer).descendants index with ⟨first, past⟩
  have first_eq := (detection.transaction.invocationTree outer).descendants_fst index
  have first_le := (detection.transaction.invocationTree outer).descendants_fst_le_snd index
  have past_le := (detection.transaction.invocationTree outer).descendants_snd_le index
  simp only [range, Transaction.length_parents_invocationTree] at first_eq first_le past_le
  have widerRange : (detection.withoutHeights.transaction.invocationTree outer).descendants index =
      (first, (detection.transaction.invokedBy outer).length) := by
    rw [first_eq]
    exact detection.transaction.descendants_withoutHeights outer index
  rw [visitOf_eq range] at settled ⊢
  rw [visitOf_eq widerRange, invokedBy_withoutHeights, madeBefore_withoutHeights,
    madeBefore_withoutHeights]
  have same : instruction.withoutHeight.withoutHeight = instruction.withoutHeight := rfl
  refine agrees_visit_withoutHeights builtIn same ?_ (Or.inr settled)
  exact {
    first_le := first_le
    past_le := past_le
    past_le_length := past_le
    start_le := Nat.le_max_right _ _
    stop_le := max_le_max
      (detection.madeBefore_mono (Position.invoked_le_invoked past_le)) (Nat.le_refl _)
    made_later := fun _ member =>
      le_position_of_mem_windowBetween ordered (Nat.le_max_left _ _) member }

/-- Below a top-level instruction the cursors stay equal, and all matchers find the same. The
windows differ at every step, but what is claimed does not, so that one cursor serves both runs. -/
theorem map_outcome?_innerVisits (builtIn : detection.registry.IsBuiltIn)
    (ordered : detection.Ordered)
    (settled : ∀ visit ∈ detection.innerVisits outer (detection.transaction.invokedBy outer)
      (detection.transaction.invocationTree outer) cursor rest, visit.position.inner ≠ none →
        ∀ run ∈ visit.run, run.outcome.candidate ≠ none) :
    (detection.withoutHeights.innerVisits outer
      (detection.withoutHeights.transaction.invokedBy outer)
      (detection.withoutHeights.transaction.invocationTree outer) cursor
      (rest.map (Prod.map Instruction.withoutHeight id))).map Visit.outcome? =
        (detection.innerVisits outer (detection.transaction.invokedBy outer)
          (detection.transaction.invocationTree outer) cursor rest).map Visit.outcome? := by
  induction rest generalizing cursor with
  | nil => rfl
  | cons head rest ih =>
      rw [innerVisits, List.forall_mem_cons] at settled
      rcases settled with ⟨headSettled, restSettled⟩
      have agrees : (detection.withoutHeights.visitOf outer cursor head.1.withoutHeight
          head.2).Agrees (detection.visitOf outer cursor head.1 head.2) :=
        agrees_visitOf builtIn ordered (headSettled (by simp [innerVisit, visit]))
      rw [List.map_cons, innerVisits, innerVisits, List.map_cons, List.map_cons]
      congr 1
      · exact agrees.outcome_eq
      · rw [← ih restSettled]
        have sameCursor := agrees.cursorAfter_eq cursor
        rw [visitOf, visitOf] at sameCursor
        rw [Prod.map_fst, Prod.map_snd, id, sameCursor]

theorem map_outcome?_visitsAt (builtIn : detection.registry.IsBuiltIn)
    (ordered : detection.Ordered)
    (settled : ∀ visit ∈ detection.visitsAt instruction outer, visit.position.inner ≠ none →
      ∀ run ∈ visit.run, run.outcome.candidate ≠ none) :
    (detection.withoutHeights.visitsAt instruction outer).map Visit.outcome? =
      (detection.visitsAt instruction outer).map Visit.outcome? := by
  have agrees : (detection.withoutHeights.ownVisit instruction outer).Agrees
      (detection.ownVisit instruction outer) := agrees_ownVisit builtIn
  rw [visitsAt, List.forall_mem_cons] at settled
  rw [visitsAt, visitsAt, List.map_cons, List.map_cons, agrees.outcome_eq, agrees.start_eq,
    agrees.claimed_eq, ← map_outcome?_innerVisits builtIn ordered settled.2,
    invokedBy_withoutHeights, List.zipIdx_map]

/-- The matchers find the same in the whole transaction. -/
theorem map_outcome?_visits (builtIn : detection.registry.IsBuiltIn) (ordered : detection.Ordered)
    (selfContained : detection.SelfContained) :
    detection.withoutHeights.visits.map Visit.outcome? = detection.visits.map Visit.outcome? := by
  rw [visits, visits, List.map_flatMap, List.map_flatMap]
  apply List.flatMap_congr
  rintro ⟨instruction, outer⟩ member
  apply map_outcome?_visitsAt builtIn ordered
  intro visit visitMem
  exact selfContained visit (List.mem_flatMap.mpr ⟨_, member, visitMem⟩)

/-- Missing depths do not change what is detected: where every swap is complete in what its own
instruction invoked, a transaction has the same swaps if no depth of an invoked instruction is
recorded. -/
theorem swaps_withoutHeights {registry : Registry} {transaction : Transaction}
    (builtIn : registry.IsBuiltIn)
    (selfContained : SelfContained ⟨registry, transaction, transaction.transfers⟩)
    (blockTime : Timestamp) (blockNumber : Slot) :
    transaction.withoutHeights.swaps registry blockTime blockNumber =
      transaction.swaps registry blockTime blockNumber := by
  have sameOutcomes := map_outcome?_visits builtIn (ordered_transfers registry transaction)
    selfContained
  have sameCandidates : candidates ⟨registry, transaction.withoutHeights, transaction.transfers⟩ =
      candidates ⟨registry, transaction, transaction.transfers⟩ := by
    rw [candidates_eq, candidates_eq, ← sameOutcomes]
    rfl
  rw [Transaction.swaps, Transaction.swaps, transaction.transfers_withoutHeights, swaps, swaps,
    sameCandidates]
  rfl

/-- Two routed trades are found without the depths that tell them apart. -/
theorem swaps_routedTrades_withoutHeights :
    Registry.standard.IsBuiltIn ∧
      SelfContained ⟨.standard, Transaction.routedTrades, Transaction.routedTrades.transfers⟩ ∧
      (Transaction.routedTrades.swaps .standard 1700000000 250000000).length = 2 ∧
      Transaction.routedTrades.withoutHeights ≠ Transaction.routedTrades ∧
      Transaction.routedTrades.withoutHeights.swaps .standard 1700000000 250000000 =
        Transaction.routedTrades.swaps .standard 1700000000 250000000 :=
  ⟨Registry.isBuiltIn_standard, by decide +kernel, by decide +kernel, by decide +kernel,
    swaps_withoutHeights Registry.isBuiltIn_standard (by decide +kernel) _ _⟩

end Detection

end SwapLedger
