import SwapLedger.Proofs.EventReports
import SwapLedger.Proofs.Insertion
import SwapLedger.Proofs.Mirroring
import SwapLedger.Proofs.TagSearch

/-!
# Idle instructions

An instruction of a program that neither moves value, nor opens token accounts, nor is registered as
an exchange, and that carries no trade event, means nothing to the search for swaps. Wherever it is
inserted among the instructions that a top-level instruction invoked, the search goes the same way:
transfers and events stand at moved positions, windows and ranges are cut at moved places, and the
inserted instruction itself is passed over.
-/

namespace SwapLedger

/-! ## What an idle instruction does not do -/

/-- An instruction that plays no part in any swap: its program cannot be resolved or is neither one
of the ledger's own nor a registered one, and its payload does not hold the tag of trade events. -/
structure Instruction.IsIdle (instruction : Instruction) (registry : Registry)
    (table : AccountTable) : Prop where
  foreign : ∀ program, instruction.programAddress? table = some program →
    program ≠ Address.systemProgram ∧ ¬Address.isTokenProgram program ∧
      program ≠ Address.associatedTokenProgram
  unregistered : ∀ program, instruction.programAddress? table = some program →
    registry.get? program = none
  carriesNoEvent : ¬TradeEvent.discriminator <:+: instruction.payload

namespace Instruction.IsIdle

variable {instruction : Instruction} {registry : Registry} {table : AccountTable}
  (idle : instruction.IsIdle registry table)

include idle

theorem meaning?_cases :
    instruction.meaning? table = none ∨ instruction.meaning? table = some .foreign := by
  rw [meaning?]
  cases named : instruction.programAddress? table with
  | none => exact Or.inl rfl
  | some program =>
      rcases idle.foreign program named with ⟨notSystem, notToken, notAssociatedToken⟩
      simp [Payload.decode, notSystem, notToken, notAssociatedToken]

theorem opening?_eq_none : instruction.opening? table = none := by
  rcases idle.meaning?_cases with meaning | meaning <;> simp [opening?, meaning]

theorem mintDecimals?_eq_none (mint : Address) : instruction.mintDecimals? table mint = none := by
  rcases idle.meaning?_cases with meaning | meaning <;> simp [mintDecimals?, meaning]

theorem transfer?_eq_none {evidence : Evidence} (sameTable : evidence.table = table)
    (position : Position) : evidence.transfer? instruction position = none := by
  subst sameTable
  rcases idle.meaning?_cases with meaning | meaning <;>
    simp [Evidence.transfer?, Evidence.requestedTransfer?, meaning]

theorem bodyIn?_eq_none : TradeEvent.bodyIn? instruction.payload = none :=
  TradeEvent.bodyIn?_eq_none_iff.mpr idle.carriesNoEvent

theorem reading?_eq_none {detection : Detection} (sameRegistry : detection.registry = registry)
    (sameTable : detection.table = table) : detection.reading? instruction = none := by
  subst sameRegistry sameTable
  rw [Detection.reading?]
  cases named : instruction.programAddress? detection.table with
  | none => rfl
  | some program => simp [idle.unregistered program named]

end Instruction.IsIdle

/-! ## Transactions -/

/-- The groups, with an instruction inserted into the first one that names the top-level instruction
`outer`. -/
def InnerGroup.insertInto (outer place : Nat) (inserted : Instruction) :
    List InnerGroup → List InnerGroup
  | [] => []
  | group :: rest =>
    if group.index.toNat == outer then
      ⟨group.index, group.instructions.insertIdx place inserted⟩ :: rest
    else group :: insertInto outer place inserted rest

/-- The transaction with an instruction inserted among those that the top-level instruction `outer`
invoked. -/
def Transaction.insertInvoked (transaction : Transaction) (outer place : Nat)
    (inserted : Instruction) : Transaction :=
  { transaction with
    innerGroups := InnerGroup.insertInto outer place inserted transaction.innerGroups }

/-- The depth of an instruction fits where it is put in a group: it is missing as all others are, or
all others are recorded and it is at least that of the instruction it is put in front of. -/
def Instruction.FitsAt (inserted : Instruction) (group : List Instruction) (place : Nat) : Prop :=
  (∀ instruction ∈ group, instruction.stackHeight = none) ∧ inserted.stackHeight = none ∨
    (∀ instruction ∈ group, instruction.stackHeight ≠ none) ∧
      ∀ next, group[place]? = some next → ∃ height, inserted.stackHeight = some height ∧
        ∀ nextHeight, next.stackHeight = some nextHeight → nextHeight ≤ height

theorem Instruction.FitsAt.admits {inserted : Instruction} {group : List Instruction} {place : Nat}
    (fits : inserted.FitsAt group place) :
    InvocationTree.Admits
      (group.map fun instruction => instruction.stackHeight.map (·.toNat)) place
      (inserted.stackHeight.map (·.toNat)) := by
  rcases fits with ⟨unknown, insertedUnknown⟩ | ⟨known, atLeast⟩
  · left
    simpa [insertedUnknown] using unknown
  · right
    refine ⟨by simpa using known, ?_⟩
    intro next nextStands
    simp only [List.getElem?_map, Option.map_eq_some_iff] at nextStands
    rcases nextStands with ⟨instruction, stands, nextHeight, recorded, rfl⟩
    rcases atLeast instruction stands with ⟨height, insertedRecorded, le⟩
    exact ⟨height.toNat, by simp [insertedRecorded], le nextHeight recorded⟩

namespace Transaction

variable {transaction : Transaction} {outer place group : Nat} {inserted : Instruction}
  {β : Type*}

/-- Under the one top-level instruction there is one more instruction, under all others there are
the same; where nothing was invoked at all, there may be no group to insert anything in. Where
several groups name one instruction, the first one counts, both for the lookup and for the
insertion. -/
theorem invokedBy_insertInvoked_cases (transaction : Transaction) (outer place group : Nat)
    (inserted : Instruction) :
    group = outer ∧ (transaction.insertInvoked outer place inserted).invokedBy group =
        (transaction.invokedBy group).insertIdx place inserted ∨
      (group = outer → transaction.invokedBy group = []) ∧
        (transaction.insertInvoked outer place inserted).invokedBy group =
          transaction.invokedBy group := by
  simp only [invokedBy, insertInvoked]
  induction transaction.innerGroups with
  | nil => exact Or.inr ⟨fun _ => rfl, rfl⟩
  | cons head rest ih =>
      rw [InnerGroup.insertInto]
      by_cases named : head.index.toNat = outer
      · by_cases same : group = outer
        · simp [named, same]
        · have other : outer ≠ group := Ne.symm same
          simp [named, same, other]
      · by_cases found : head.index.toNat = group
        · have other : group ≠ outer := found ▸ named
          simp [found, other]
        · simpa [named, found] using ih

theorem filterMap_allInstructions_insertInvoked {read : Instruction → Option β}
    (nothing : read inserted = none) :
    (transaction.insertInvoked outer place inserted).allInstructions.filterMap read =
      transaction.allInstructions.filterMap read := by
  simp only [allInstructions, insertInvoked, List.filterMap_append, List.filterMap_flatMap]
  congr 1
  induction transaction.innerGroups with
  | nil => rfl
  | cons head rest ih =>
      rw [InnerGroup.insertInto]
      split_ifs
      · rw [List.flatMap_cons, List.flatMap_cons, filterMap_insertIdx _ _ nothing]
      · rw [List.flatMap_cons, List.flatMap_cons, ih]

/-- What is read off a group is read off at moved places, if the inserted instruction gives
nothing. -/
theorem filterMap_zipIdx_insertInvoked {read : Instruction × Nat → Option β}
    (nothing : ∀ index, read (inserted, index) = none) :
    ((transaction.insertInvoked outer place inserted).invokedBy group).zipIdx.filterMap read =
      (transaction.invokedBy group).zipIdx.filterMap fun entry =>
        read (entry.1, shiftedUnder outer place group entry.2) := by
  rcases transaction.invokedBy_insertInvoked_cases outer place group inserted with
    ⟨same, invoked⟩ | ⟨empty, invoked⟩
  · rw [invoked, filterMap_zipIdx_insertIdx _ _ (nothing place), shiftedUnder, if_pos same]
  · rw [invoked, shiftedUnder]
    split_ifs with same
    · rw [empty same]
      rfl
    · rfl

theorem sameCut_length_insertInvoked (place_le : place ≤ (transaction.invokedBy outer).length)
    (group : Nat) :
    SameCut (shiftedUnder outer place group) (transaction.invokedBy group).length
      ((transaction.insertInvoked outer place inserted).invokedBy group).length := by
  rcases transaction.invokedBy_insertInvoked_cases outer place group inserted with
    ⟨rfl, invoked⟩ | ⟨empty, invoked⟩
  · rw [invoked, shiftedUnder, if_pos rfl, List.length_insertIdx_of_le_length place_le]
    exact sameCut_of_ge place_le
  · rw [invoked, shiftedUnder]
    split_ifs with same
    · rw [empty same]
      exact sameCut_zero _
    · exact sameCut_id _

/-- What an instruction invoked is cut out at moved places. -/
theorem exists_descendants_insertInvoked
    (fits : inserted.FitsAt (transaction.invokedBy outer) place)
    (place_le : place ≤ (transaction.invokedBy outer).length) {index first past : Nat}
    (index_lt : index < (transaction.invokedBy group).length)
    (range : (transaction.invocationTree group).descendants index = (first, past)) :
    ∃ otherFirst otherPast,
      ((transaction.insertInvoked outer place inserted).invocationTree group).descendants
          (shiftedUnder outer place group index) = (otherFirst, otherPast) ∧
        SameCut (shiftedUnder outer place group) first otherFirst ∧
        SameCut (shiftedUnder outer place group) past otherPast := by
  rcases transaction.invokedBy_insertInvoked_cases outer place group inserted with
    ⟨rfl, invoked⟩ | ⟨empty, invoked⟩
  · rw [invocationTree, invoked, List.map_insertIdx, shiftedUnder, if_pos rfl]
    exact InvocationTree.exists_descendants_insertIdx fits.admits (by rwa [List.length_map])
      (by rwa [List.length_map]) range
  · have other : group ≠ outer := by
      intro same
      rw [empty same] at index_lt
      exact absurd index_lt (Nat.not_lt_zero index)
    rw [invocationTree, invoked, shiftedUnder, if_neg other]
    exact ⟨first, past, range, sameCut_id first, sameCut_id past⟩

end Transaction

/-! ## Transfers -/

namespace Evidence

variable {transaction : Transaction} {registry : Registry} {outer place : Nat}
  {inserted : Instruction} (idle : inserted.IsIdle registry transaction.accounts)

include idle

/-- An idle instruction tells nothing about accounts. -/
theorem mirrors_insertInvoked :
    (ofTransaction (transaction.insertInvoked outer place inserted)).Mirrors
      (ofTransaction transaction) id :=
  mirrors_of_sameBalances rfl rfl rfl
    (Transaction.filterMap_allInstructions_insertInvoked idle.opening?_eq_none)
    fun mint =>
      Transaction.filterMap_allInstructions_insertInvoked (idle.mintDecimals?_eq_none mint)

/-- An instruction moves the same at its new position. -/
theorem transfer?_insertInvoked (instruction : Instruction) (position : Position) :
    (ofTransaction (transaction.insertInvoked outer place inserted)).transfer? instruction
        (position.shift outer place) =
      ((ofTransaction transaction).transfer? instruction position).map
        (Transfer.moved (Position.shift outer place)) := by
  rw [transfer?_eq_of_mirrors_id (mirrors_insertInvoked idle), transfer?_move]

theorem transfersAt_insertInvoked (instruction : Instruction) (group : Nat) :
    (ofTransaction (transaction.insertInvoked outer place inserted)).transfersAt instruction group =
      ((ofTransaction transaction).transfersAt instruction group).map
        (Transfer.moved (Position.shift outer place)) := by
  have invoked : ((transaction.insertInvoked outer place inserted).invokedBy group).zipIdx.filterMap
      (fun entry => (ofTransaction (transaction.insertInvoked outer place inserted)).transfer?
        entry.1 (.invoked group entry.2)) =
      ((transaction.invokedBy group).zipIdx.filterMap fun entry =>
        (ofTransaction transaction).transfer? entry.1 (.invoked group entry.2)).map
          (Transfer.moved (Position.shift outer place)) := by
    rw [Transaction.filterMap_zipIdx_insertInvoked, List.map_filterMap]
    · congr 1
      funext entry
      exact transfer?_insertInvoked idle entry.1 (.invoked group entry.2)
    · exact fun index => idle.transfer?_eq_none rfl _
  have own : (ofTransaction (transaction.insertInvoked outer place inserted)).transfer? instruction
      (.topLevel group) = ((ofTransaction transaction).transfer? instruction (.topLevel group)).map
        (Transfer.moved (Position.shift outer place)) :=
    transfer?_insertInvoked idle instruction (.topLevel group)
  rw [transfersAt, transfersAt, List.map_append, own]
  congr 1
  cases (ofTransaction transaction).transfer? instruction (.topLevel group) <;> rfl

end Evidence

/-- The transfers are the same, at moved positions. -/
theorem Transaction.transfers_insertInvoked {transaction : Transaction} {registry : Registry}
    {outer place : Nat} {inserted : Instruction}
    (idle : inserted.IsIdle registry transaction.accounts) :
    (transaction.insertInvoked outer place inserted).transfers =
      transaction.transfers.map (Transfer.moved (Position.shift outer place)) := by
  simp only [transfers, Evidence.transfersAt_insertInvoked idle, List.map_flatMap]
  rfl

/-! ## The search -/

namespace Detection

variable {detection : Detection} {outer place group : Nat} {inserted instruction : Instruction}

/-- The search in the transaction with an inserted instruction, given the transfers at their new
positions. -/
def inserting (detection : Detection) (outer place : Nat) (inserted : Instruction) : Detection :=
  ⟨detection.registry, detection.transaction.insertInvoked outer place inserted,
    detection.transfers.map (Transfer.moved (Position.shift outer place))⟩

theorem countWhile_inserting {condition other : Transfer → Bool}
    (same : ∀ transfer, other (transfer.moved (Position.shift outer place)) = condition transfer) :
    (detection.inserting outer place inserted).countWhile other =
      detection.countWhile condition := by
  rw [countWhile, countWhile, inserting, List.takeWhile_map, List.length_map]
  congr 2
  exact funext same

theorem madeBefore_inserting {cut other : Nat}
    (sameCut : SameCut (shiftedUnder outer place group) cut other) :
    (detection.inserting outer place inserted).madeBefore (.invoked group other) =
      detection.madeBefore (.invoked group cut) := by
  apply countWhile_inserting
  intro transfer
  rw [Transfer.position_moved, decide_eq_decide]
  exact Position.shift_lt_invoked_iff sameCut transfer.position

theorem windowBetween_inserting (start stop : Nat) :
    (detection.inserting outer place inserted).windowBetween start stop =
      (detection.windowBetween start stop).map (Transfer.moved (Position.shift outer place)) := by
  rw [windowBetween, windowBetween, List.map_take, List.map_drop]
  rfl

variable (idle : inserted.IsIdle detection.registry detection.table)

include idle

/-- Between cuts at moved places there are the same events. -/
theorem eventsBetween_inserting {first otherFirst past otherPast : Nat}
    (firstCut : SameCut (shiftedUnder outer place group) first otherFirst)
    (pastCut : SameCut (shiftedUnder outer place group) past otherPast) :
    eventsBetween group
        ((detection.inserting outer place inserted).transaction.invokedBy group) otherFirst
        otherPast =
      (eventsBetween group (detection.transaction.invokedBy group) first past).map
        (Prod.map (Position.shift outer place) id) := by
  rw [eventsBetween, eventsBetween, inserting, Transaction.filterMap_zipIdx_insertInvoked,
    List.map_filterMap]
  · congr 1
    funext entry
    have first_iff : otherFirst ≤ shiftedUnder outer place group entry.2 ↔ first ≤ entry.2 := by
      rw [← Nat.not_lt, ← Nat.not_lt, firstCut entry.2]
    simp only [first_iff, pastCut entry.2]
    split_ifs
    · cases TradeEvent.bodyIn? entry.1.payload <;> rfl
    · rfl
  · simp [idle.bodyIn?_eq_none]

/-- Visits agree whose ranges are cut out at moved places. -/
theorem agrees_visit_inserting (builtIn : detection.registry.IsBuiltIn) {position : Position}
    {first otherFirst past otherPast start stop : Nat} (under : position.outer = group)
    (firstCut : SameCut (shiftedUnder outer place group) first otherFirst)
    (pastCut : SameCut (shiftedUnder outer place group) past otherPast) :
    ((detection.inserting outer place inserted).visit instruction (position.shift outer place)
      ((detection.inserting outer place inserted).transaction.invokedBy group) otherFirst otherPast
      start stop).Agrees
      (detection.visit instruction position (detection.transaction.invokedBy group) first past start
        stop) := by
  refine agrees_visit_of_mirrors builtIn (Position.strictMono_shift outer place) rfl ?_
  intro protocol
  exact {
    protocol_eq := rfl
    account_eq := fun _ => rfl
    position_eq := rfl
    window_eq := windowBetween_inserting start stop
    event_eq := by
      rw [eventBody?_contextOf, eventBody?_contextOf, Position.outer_shift, under,
        eventsBetween_inserting idle firstCut pastCut, List.head?_map] }

theorem agrees_ownVisit_inserting (builtIn : detection.registry.IsBuiltIn)
    (place_le : place ≤ (detection.transaction.invokedBy outer).length) :
    ((detection.inserting outer place inserted).ownVisit instruction group).Agrees
      (detection.ownVisit instruction group) := by
  have sameStart : (detection.inserting outer place inserted).countWhile
      (fun transfer => decide (transfer.position.outer < group)) =
        detection.countWhile fun transfer => decide (transfer.position.outer < group) :=
    countWhile_inserting fun _ => rfl
  have sameStop : (detection.inserting outer place inserted).countWhile
      (fun transfer => decide (transfer.position.outer ≤ group)) =
        detection.countWhile fun transfer => decide (transfer.position.outer ≤ group) :=
    countWhile_inserting fun _ => rfl
  have whole : SameCut (shiftedUnder outer place group)
      (detection.transaction.invokedBy group).length
      ((detection.inserting outer place inserted).transaction.invokedBy group).length :=
    Transaction.sameCut_length_insertInvoked place_le group
  rw [ownVisit, ownVisit, sameStart, sameStop]
  exact agrees_visit_inserting idle builtIn (Position.outer_topLevel group) (sameCut_zero _) whole

/-- From the same cursor, the visits of an invoked instruction agree. -/
theorem agrees_visitOf_inserting (builtIn : detection.registry.IsBuiltIn)
    (place_le : place ≤ (detection.transaction.invokedBy outer).length)
    (fits : inserted.FitsAt (detection.transaction.invokedBy outer) place) {index cursor : Nat}
    (index_lt : index < (detection.transaction.invokedBy group).length) :
    ((detection.inserting outer place inserted).visitOf group cursor instruction
      (shiftedUnder outer place group index)).Agrees
      (detection.visitOf group cursor instruction index) := by
  rcases range : (detection.transaction.invocationTree group).descendants index with ⟨first, past⟩
  rcases Transaction.exists_descendants_insertInvoked fits place_le index_lt range with
    ⟨otherFirst, otherPast, otherRange, firstCut, pastCut⟩
  have sameStart : (detection.inserting outer place inserted).madeBefore
      (.invoked group otherFirst) = detection.madeBefore (.invoked group first) :=
    madeBefore_inserting firstCut
  have sameStop : (detection.inserting outer place inserted).madeBefore (.invoked group otherPast) =
      detection.madeBefore (.invoked group past) :=
    madeBefore_inserting pastCut
  rw [visitOf_eq range, visitOf_eq otherRange, sameStart, sameStop]
  exact agrees_visit_inserting idle builtIn (Position.outer_invoked group index) firstCut pastCut

/-- The instructions that are read are the same, at moved places. -/
theorem filter_reading?_inserting :
    (((detection.inserting outer place inserted).transaction.invokedBy group).zipIdx.filter
      fun entry => (detection.reading? entry.1).isSome) =
      ((detection.transaction.invokedBy group).zipIdx.filter fun entry =>
        (detection.reading? entry.1).isSome).map
          (Prod.map id (shiftedUnder outer place group)) := by
  rw [← List.filterMap_eq_filter, inserting, Transaction.filterMap_zipIdx_insertInvoked,
    List.map_filterMap]
  · congr 1
    funext entry
    cases reads : detection.reading? entry.1 <;> simp [Option.guard, reads, Prod.map]
  · simp [Option.guard, idle.reading?_eq_none rfl rfl]

/-- Under every top-level instruction the matchers find the same. The searches are compared over
what is read, which the inserted instruction is not. -/
theorem outcomesAt_inserting (builtIn : detection.registry.IsBuiltIn)
    (place_le : place ≤ (detection.transaction.invokedBy outer).length)
    (fits : inserted.FitsAt (detection.transaction.invokedBy outer) place) :
    (detection.inserting outer place inserted).outcomesAt instruction group =
      detection.outcomesAt instruction group := by
  have ownAgrees : ((detection.inserting outer place inserted).ownVisit instruction group).Agrees
      (detection.ownVisit instruction group) :=
    agrees_ownVisit_inserting idle builtIn place_le
  have innerAgrees : ∀ entry ∈ (detection.transaction.invokedBy group).zipIdx.filter
      (fun entry => (detection.reading? entry.1).isSome), ∀ cursor,
        ((detection.inserting outer place inserted).visitOf group cursor entry.1
          (shiftedUnder outer place group entry.2)).Agrees
          (detection.visitOf group cursor entry.1 entry.2) := by
    intro entry member cursor
    have stands := List.mem_zipIdx_iff_getElem?.mp (List.mem_filter.mp member).1
    exact agrees_visitOf_inserting idle builtIn place_le fits
      (List.getElem?_eq_some_iff.mp stands).1
  have sameReading : (detection.inserting outer place inserted).reading? = detection.reading? := rfl
  rw [outcomesAt_eq, outcomesAt_eq, ownAgrees.outcome_eq, ownAgrees.start_eq, ownAgrees.claimed_eq,
    ← filterMap_outcome?_visitsFrom_filter, sameReading, filter_reading?_inserting idle,
    filterMap_outcome?_visitsFrom_of_agrees innerAgrees, filterMap_outcome?_visitsFrom_filter]

theorem candidates_inserting (builtIn : detection.registry.IsBuiltIn)
    (place_le : place ≤ (detection.transaction.invokedBy outer).length)
    (fits : inserted.FitsAt (detection.transaction.invokedBy outer) place) :
    (detection.inserting outer place inserted).candidates = detection.candidates := by
  simp only [candidates_eq_flatMap, outcomesAt_inserting idle builtIn place_le fits]
  rfl

end Detection

namespace Transaction

/-- Idle instructions do not change what is detected. An instruction that plays no part in any swap
may be inserted anywhere among those that a top-level instruction invoked, if its depth fits there:
the transaction has the same swaps. -/
theorem swaps_insertInvoked {transaction : Transaction} {registry : Registry} {outer place : Nat}
    {inserted : Instruction} (builtIn : registry.IsBuiltIn)
    (place_le : place ≤ (transaction.invokedBy outer).length)
    (idle : inserted.IsIdle registry transaction.accounts)
    (fits : inserted.FitsAt (transaction.invokedBy outer) place)
    (blockTime : Timestamp) (blockNumber : Slot) :
    (transaction.insertInvoked outer place inserted).swaps registry blockTime blockNumber =
      transaction.swaps registry blockTime blockNumber := by
  have sameCandidates : (Detection.inserting ⟨registry, transaction, transaction.transfers⟩ outer
      place inserted).candidates =
        Detection.candidates ⟨registry, transaction, transaction.transfers⟩ :=
    Detection.candidates_inserting idle builtIn place_le fits
  rw [swaps, swaps, transfers_insertInvoked idle]
  exact Detection.swaps_eq_of_candidates_eq sameCandidates rfl rfl rfl blockTime blockNumber

/-- Two routed trades are found with a call of the router in the middle of the first one. -/
theorem swaps_routedTrades_insertInvoked :
    let inserted : Instruction := ⟨6, [0, 1, 2], "3DbEuZHcyqBD", some 3⟩
    Registry.standard.IsBuiltIn ∧ 2 ≤ (routedTrades.invokedBy 0).length ∧
      inserted.IsIdle .standard routedTrades.accounts ∧
      inserted.FitsAt (routedTrades.invokedBy 0) 2 ∧
      ((routedTrades.insertInvoked 0 2 inserted).invokedBy 0).length = 7 ∧
      (routedTrades.swaps .standard 1700000000 250000000).length = 2 ∧
      (routedTrades.insertInvoked 0 2 inserted).swaps .standard 1700000000 250000000 =
        routedTrades.swaps .standard 1700000000 250000000 := by
  intro inserted
  have idle : inserted.IsIdle .standard routedTrades.accounts := by
    have named : inserted.programAddress? routedTrades.accounts = some "Router" := by decide +kernel
    refine ⟨?_, ?_, by decide +kernel⟩
    · rintro program programNamed
      rw [named, Option.some.injEq] at programNamed
      subst programNamed
      decide +kernel
    · rintro program programNamed
      rw [named, Option.some.injEq] at programNamed
      subst programNamed
      rfl
  have fits : inserted.FitsAt (routedTrades.invokedBy 0) 2 := by
    right
    refine ⟨by decide +kernel, ?_⟩
    intro next stands
    refine ⟨3, rfl, ?_⟩
    rw [show (routedTrades.invokedBy 0)[2]? = some ⟨8, [4, 2, 5], "3gFAscqFEt1m", some 3⟩ from rfl,
      Option.some.injEq] at stands
    subst stands
    rintro nextHeight ⟨⟩
    exact UInt32.le_refl 3
  exact ⟨Registry.isBuiltIn_standard, by decide +kernel, idle, fits, by decide +kernel,
    by decide +kernel,
    swaps_insertInvoked Registry.isBuiltIn_standard (by decide +kernel) idle fits _ _⟩

end Transaction

end SwapLedger
