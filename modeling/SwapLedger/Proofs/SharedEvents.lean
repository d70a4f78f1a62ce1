import SwapLedger.Proofs.EventReports
import SwapLedger.Proofs.InvocationDepths
import SwapLedger.Proofs.Soundness

/-!
# Shared events

A candidate may be read off an event instead of transfers. The cursor keeps two runs from claiming
one transfer, but nothing keeps two runs from reading one event: each looks through all instructions
that its own one invoked. Where such ranges nest and no event comes before the inner instruction,
both runs find the same event first, and one trade is recorded twice. This file says exactly when
that happens; where it does not, an event gives one swap at most.
-/

namespace SwapLedger

/-- The range of an instruction ends no later than that of one that it counts as invoked by. -/
theorem Transaction.invokedRange_snd_le_of_invoked (transaction : Transaction) {position : Position}
    {index : Nat} (first_le : (transaction.invokedRange position).1 ≤ index)
    (lt_past : index < (transaction.invokedRange position).2) :
    (transaction.invokedRange (.invoked position.outer index)).2 ≤
      (transaction.invokedRange position).2 := by
  rcases position with ⟨outer, _ | place⟩
  · exact transaction.invokedRange_snd_le _
  · exact InvocationTree.descendants_snd_le_of_invoked ⟨first_le, lt_past⟩

namespace MatchRun

/-- The position of the event that the candidate of a run was read off, if it was read off one. -/
def source? (run : MatchRun) : Option Position :=
  if run.outcome = Protocol.pumpFun.matcher run.context ∧ run.outcome.candidate ≠ none then
    run.context.eventBody?.map (·.1)
  else none

theorem source?_of_ne_none {run : MatchRun} (reports : run.source? ≠ none) :
    run.source? = run.context.eventBody?.map (·.1) := by
  rw [source?] at reports ⊢
  split_ifs at reports ⊢
  · rfl
  · exact absurd rfl reports

/-- What the matcher of events finds was read off an event. -/
theorem exists_source? {run : MatchRun} {candidate : Candidate}
    (matched : run.outcome = Protocol.pumpFun.matcher run.context)
    (found : run.outcome.candidate = some candidate) : ∃ position, run.source? = some position := by
  have byEvent : (run.context.byEvent 3).candidate = some candidate := by
    rw [← found, matched, Protocol.matcher]
  rcases MatchContext.exists_event_of_byEvent byEvent with ⟨position, body, _, carried, _⟩
  refine ⟨position, ?_⟩
  rw [source?, if_pos ⟨matched, by simp [found]⟩, carried, Option.map_some]

end MatchRun

namespace Visit

/-- The position of the event that was reported at a visit. -/
def source? (visit : Visit) : Option Position := visit.run.bind (·.source?)

end Visit

namespace Detection

variable {detection : Detection} {earlier later visit : Visit} {instruction visited : Instruction}
  {outer : Nat}

/-! ## Visits in execution order -/

theorem map_position_visitsFrom {cursor : Nat} {rest : List (Instruction × Nat)} :
    (detection.visitsFrom outer cursor rest).map Visit.position =
      rest.map fun entry => Position.invoked outer entry.2 := by
  induction rest generalizing cursor with
  | nil => rfl
  | cons head rest ih => rw [visitsFrom_cons, List.map_cons, List.map_cons, ih, position_visitOf]

theorem pairwise_position_visitsAt :
    (detection.visitsAt instruction outer).Pairwise fun earlier later =>
      earlier.position < later.position := by
  rw [← List.pairwise_map, visitsAt_eq, List.map_cons, map_position_visitsFrom,
    position_ownVisit, List.pairwise_cons, List.pairwise_map]
  constructor
  · intro position member
    rcases List.mem_map.mp member with ⟨entry, _, rfl⟩
    exact Position.topLevel_lt_invoked outer entry.2
  · exact (pairwise_snd_zipIdx _ 0).imp Position.invoked_lt_invoked.mpr

/-- Instructions are visited in execution order. -/
theorem pairwise_position_visits (detection : Detection) :
    detection.visits.Pairwise fun earlier later => earlier.position < later.position := by
  rw [visits, List.pairwise_flatMap]
  constructor
  · rintro ⟨instruction, outer⟩ _
    exact pairwise_position_visitsAt
  · apply (pairwise_snd_zipIdx _ 0).imp_of_mem
    rintro ⟨first, outer⟩ ⟨second, laterOuter⟩ firstMem secondMem before
      earlier earlierMem later laterMem
    apply Position.lt_of_outer_lt
    rw [(fits_of_mem_visitsAt (List.mk_mem_zipIdx_iff_getElem?.mp firstMem) earlierMem).1,
      (fits_of_mem_visitsAt (List.mk_mem_zipIdx_iff_getElem?.mp secondMem) laterMem).1]
    exact before

/-! ## Which event is reported -/

variable (detection) in
/-- The events among the instructions that count as invoked at a visit, up to a place. -/
def eventsUpTo (visit : Visit) (past : Nat) : List (Position × Bytes) :=
  eventsBetween visit.position.outer (detection.transaction.invokedBy visit.position.outer)
    visit.first past

theorem position_of_mem_eventsUpTo {position : Position} {body : Bytes} {past : Nat}
    (member : (position, body) ∈ detection.eventsUpTo visit past) :
    position.outer = visit.position.outer ∧
      .invoked visit.position.outer visit.first ≤ position ∧
      position < .invoked visit.position.outer past := by
  rcases mem_eventsBetween.mp member with ⟨index, _, _, first_le, lt_past, _, rfl⟩
  exact ⟨rfl, Position.invoked_le_invoked first_le, Position.invoked_lt_invoked.mpr lt_past⟩

/-- A visit reports the first event of its range. -/
theorem Fits.source?_eq (fits : detection.Fits visit visited) (reports : visit.source? ≠ none) :
    visit.source? = (detection.eventsUpTo visit visit.past).head?.map (·.1) := by
  rw [Visit.source?] at reports ⊢
  cases ran : visit.run with
  | none => simp [ran] at reports
  | some run =>
      rw [ran, Option.bind_some] at reports
      rcases run?_eq_some.mp (fits.ran ▸ ran) with ⟨entry, _, context, _, _⟩
      rw [Option.bind_some, MatchRun.source?_of_ne_none reports, context, eventsUpTo,
        ← eventBody?_contextOf]
      rfl

variable (detection) in
/-- The instruction of a later visit counts as invoked by that of an earlier one, with no event
before it that the earlier one could take for its own. -/
def Overlooks (earlier later : Visit) : Prop :=
  ∃ index, later.position = .invoked earlier.position.outer index ∧ earlier.first ≤ index ∧
    index < earlier.past ∧ detection.eventsUpTo earlier (index + 1) = []

instance (earlier later : Visit) : Decidable (detection.Overlooks earlier later) :=
  match inner : later.position.inner with
  | none => isFalse fun ⟨_, position, _⟩ => by simp [position] at inner
  | some index => decidable_of_iff (later.position.outer = earlier.position.outer ∧
      earlier.first ≤ index ∧ index < earlier.past ∧
        (detection.eventsUpTo earlier (index + 1)).isEmpty) (by
      rcases later with ⟨⟨outer, _⟩, _⟩
      cases inner
      simp [Overlooks, Position.invoked, and_assoc, List.isEmpty_iff])

namespace Fits

theorem exists_head_eventsUpTo (fits : detection.Fits visit visited) {position : Position}
    (reports : visit.source? = some position) :
    ∃ body, (detection.eventsUpTo visit visit.past).head? = some (position, body) := by
  have source := fits.source?_eq (by simp [reports])
  rw [reports, eq_comm, Option.map_eq_some_iff] at source
  rcases source with ⟨⟨_, body⟩, head, rfl⟩
  exact ⟨body, head⟩

/-- The events of a visit up to a place inside its range come first. -/
theorem eventsUpTo_eq_append (fits : detection.Fits visit visited) {index : Nat}
    (first_le : visit.first ≤ index) (index_le : index ≤ visit.past) :
    detection.eventsUpTo visit visit.past = detection.eventsUpTo visit index ++
      eventsBetween visit.position.outer
        (detection.transaction.invokedBy visit.position.outer) index visit.past :=
  eventsBetween_append _ first_le index_le (index_le.trans fits.past_le_length)

theorem first_eq (fits : detection.Fits visit visited) {index : Nat}
    (position : visit.position = .invoked outer index) : visit.first = index + 1 := by
  have stands := fits.stands
  have range := fits.range
  rw [position, Transaction.instructionAt?_invoked_eq_some] at stands
  have index_lt := (List.getElem?_eq_some_iff.mp stands.2).1
  rw [position, Transaction.invokedRange, Position.inner_invoked, Position.outer_invoked] at range
  have first_eq : visit.first = _ := congrArg Prod.fst range
  rw [first_eq, InvocationTree.descendants_fst, Transaction.length_parents_invocationTree]
  exact Nat.min_eq_left index_lt

/-- The range of an instruction begins no later than the next instruction. -/
theorem first_le_of_lt (fits : detection.Fits visit visited) {index : Nat}
    (before : visit.position < .invoked outer index) (under : visit.position.outer = outer) :
    visit.first ≤ index := by
  cases inner : visit.position.inner with
  | none =>
      have range := fits.range
      rw [Transaction.invokedRange, inner] at range
      have first_eq : visit.first = 0 := congrArg Prod.fst range
      rw [first_eq]
      exact Nat.zero_le _
  | some place =>
      have position : visit.position = .invoked outer place := by
        rw [← under, Position.invoked, ← inner]
      rw [position, Position.invoked_lt_invoked] at before
      rw [fits.first_eq position]
      exact before

end Fits

section Pair

variable {source : Position} (earlierFits : detection.Fits earlier visited)
  (laterFits : detection.Fits later instruction)

include earlierFits laterFits

/-- If both visits report one event, the instruction of the later one was overlooked: an event in
front of it would come first for the earlier visit. -/
theorem overlooks_of_source?_eq (inOrder : earlier.position < later.position)
    (reported : earlier.source? = some source) (again : later.source? = some source) :
    detection.Overlooks earlier later := by
  rcases earlierFits.exists_head_eventsUpTo reported with ⟨body, head⟩
  rcases laterFits.exists_head_eventsUpTo again with ⟨_, laterHead⟩
  rcases position_of_mem_eventsUpTo (List.mem_of_head? head) with ⟨earlierOuter, _, source_lt⟩
  rcases position_of_mem_eventsUpTo (List.mem_of_head? laterHead) with ⟨laterOuter, le_source, _⟩
  have sameOuter : later.position.outer = earlier.position.outer :=
    laterOuter.symm.trans earlierOuter
  have after : Position.topLevel earlier.position.outer < later.position := by
    refine lt_of_le_of_lt ?_ inOrder
    rw [← not_lt, Position.lt_topLevel_iff]
    exact Nat.lt_irrefl _
  rcases Position.exists_invoked_of_after sameOuter after with ⟨index, position⟩
  have first_le := earlierFits.first_le_of_lt (position ▸ inOrder) rfl
  rw [laterFits.first_eq position, sameOuter] at le_source
  have lt_past := Position.invoked_lt_invoked.mp (lt_of_le_of_lt le_source source_lt)
  refine ⟨index, position, first_le, by omega, ?_⟩
  by_contra nonempty
  rcases List.exists_cons_of_ne_nil nonempty with ⟨⟨front, frontBody⟩, rest, events⟩
  rw [earlierFits.eventsUpTo_eq_append (Nat.le_succ_of_le first_le) lt_past.le, events,
    List.cons_append, List.head?_cons, Option.some.injEq, Prod.mk.injEq] at head
  have frontMem : (front, frontBody) ∈ detection.eventsUpTo earlier (index + 1) := by
    rw [events]
    exact List.mem_cons_self
  rw [← head.1] at le_source
  exact absurd (position_of_mem_eventsUpTo frontMem).2.2 (not_lt_of_ge le_source)

/-- What an instruction finds behind one that it overlooks starts with what that one finds. In front
of that it sees nothing, and behind it the rest. -/
theorem head_eventsUpTo_of_overlooks {event : Position × Bytes}
    (overlooks : detection.Overlooks earlier later)
    (laterHead : (detection.eventsUpTo later later.past).head? = some event) :
    (detection.eventsUpTo earlier earlier.past).head? = some event := by
  rcases overlooks with ⟨index, position, first_le, lt_past, nothing⟩
  have first_eq : earlier.first = (detection.transaction.invokedRange earlier.position).1 :=
    congrArg Prod.fst earlierFits.range
  have past_eq : earlier.past = (detection.transaction.invokedRange earlier.position).2 :=
    congrArg Prod.snd earlierFits.range
  have laterPast_eq : later.past = (detection.transaction.invokedRange later.position).2 :=
    congrArg Prod.snd laterFits.range
  have nested : later.past ≤ earlier.past := by
    rw [laterPast_eq, position, past_eq]
    exact detection.transaction.invokedRange_snd_le_of_invoked (first_eq ▸ first_le)
      (past_eq ▸ lt_past)
  have behind_le : index + 1 ≤ later.past := laterFits.first_eq position ▸ laterFits.first_le_past
  have laterEvents : detection.eventsUpTo later later.past =
      eventsBetween earlier.position.outer
        (detection.transaction.invokedBy earlier.position.outer) (index + 1) later.past := by
    rw [eventsUpTo, laterFits.first_eq position, position, Position.outer_invoked]
  rw [earlierFits.eventsUpTo_eq_append (Nat.le_succ_of_le first_le) lt_past, nothing,
    List.nil_append, eventsBetween_append _ behind_le nested
      (nested.trans earlierFits.past_le_length), ← laterEvents, List.head?_append, laterHead,
    Option.some_or]

/-- Where a later instruction was overlooked, both visits report one event. -/
theorem source?_eq_of_overlooks (overlooks : detection.Overlooks earlier later)
    (earlierReports : earlier.source? ≠ none) (again : later.source? = some source) :
    earlier.source? = some source := by
  rcases laterFits.exists_head_eventsUpTo again with ⟨body, laterHead⟩
  rw [earlierFits.source?_eq earlierReports,
    head_eventsUpTo_of_overlooks earlierFits laterFits overlooks laterHead, Option.map_some]

end Pair

/-! ## Counting events -/

variable (detection) in
/-- Where two instructions report events, none of them is overlooked by the other: each one that
counts as invoked by another has an event of that one before it. -/
def ReportsApart : Prop :=
  detection.visits.Pairwise fun earlier later =>
    earlier.source? ≠ none → later.source? ≠ none → ¬detection.Overlooks earlier later

instance (detection : Detection) : Decidable detection.ReportsApart :=
  inferInstanceAs (Decidable (detection.visits.Pairwise fun earlier later =>
    earlier.source? ≠ none → later.source? ≠ none → ¬detection.Overlooks earlier later))

/-- Reports are apart just if no two visits report one event. -/
theorem reportsApart_iff (detection : Detection) : detection.ReportsApart ↔
    detection.visits.Pairwise fun earlier later =>
      ∀ position, ¬(earlier.source? = some position ∧ later.source? = some position) := by
  have ordered := detection.pairwise_position_visits
  constructor
  · intro apart
    apply (ordered.and apart).imp_of_mem
    rintro earlier later earlierMem laterMem ⟨inOrder, notOverlooked⟩ position ⟨reported, again⟩
    rcases fits_of_mem_visits earlierMem with ⟨_, earlierFits⟩
    rcases fits_of_mem_visits laterMem with ⟨_, laterFits⟩
    exact notOverlooked (by simp [reported]) (by simp [again])
      (overlooks_of_source?_eq earlierFits laterFits inOrder reported again)
  · intro distinct
    apply distinct.imp_of_mem
    intro earlier later earlierMem laterMem notShared earlierReports laterReports overlooked
    rcases fits_of_mem_visits earlierMem with ⟨_, earlierFits⟩
    rcases fits_of_mem_visits laterMem with ⟨_, laterFits⟩
    rcases Option.ne_none_iff_exists'.mp laterReports with ⟨position, again⟩
    exact notShared position
      ⟨source?_eq_of_overlooks earlierFits laterFits overlooked earlierReports again, again⟩

/-- The record of what was found at a visit, if it is one of a swap. -/
def recordAt? (detection : Detection) (blockTime : Timestamp) (blockNumber : Slot) (visit : Visit) :
    Option SwapRecord :=
  visit.run.bind fun run => run.outcome.candidate.bind
    (·.record? ⟨detection.transaction.signature, blockTime, blockNumber⟩)

variable (detection) in
/-- The swaps that were read off the event at a position. -/
def swapsFrom (position : Position) (blockTime : Timestamp) (blockNumber : Slot) :
    List SwapRecord :=
  if detection.registry.touches detection.table then
    (detection.visits.filter fun visit => visit.source? = some position).filterMap
      (detection.recordAt? blockTime blockNumber)
  else []

theorem swaps_eq_filterMap_visits (detection : Detection) (blockTime : Timestamp)
    (blockNumber : Slot) : detection.swaps blockTime blockNumber =
      if detection.registry.touches detection.table then
        detection.visits.filterMap (detection.recordAt? blockTime blockNumber)
      else [] := by
  simp only [swaps, candidates, runs, List.filterMap_filterMap, Option.bind_assoc]
  rfl

theorem swapsFrom_sublist_swaps (detection : Detection) (position : Position)
    (blockTime : Timestamp) (blockNumber : Slot) :
    (detection.swapsFrom position blockTime blockNumber).Sublist
      (detection.swaps blockTime blockNumber) := by
  rw [swapsFrom, swaps_eq_filterMap_visits]
  split_ifs
  · exact List.filter_sublist.filterMap _
  · exact List.Sublist.refl _

theorem length_le_one_of_pairwise_false {α : Type*} {list : List α}
    (alone : list.Pairwise fun _ _ => False) : list.length ≤ 1 := by
  rcases list with _ | ⟨first, _ | ⟨second, rest⟩⟩
  · exact Nat.zero_le 1
  · exact Nat.le_refl 1
  · exact ((List.pairwise_cons.mp alone).1 second List.mem_cons_self).elim

/-- Where reports are apart, an event gives one swap at most. -/
theorem ReportsApart.length_swapsFrom_le (apart : detection.ReportsApart) (position : Position)
    (blockTime : Timestamp) (blockNumber : Slot) :
    (detection.swapsFrom position blockTime blockNumber).length ≤ 1 := by
  rw [swapsFrom]
  split_ifs
  · refine (List.length_filterMap_le _ _).trans (length_le_one_of_pairwise_false ?_)
    rw [List.pairwise_filter]
    apply (detection.reportsApart_iff.mp apart).imp
    intro earlier later distinct reported again
    exact distinct position ⟨of_decide_eq_true reported, of_decide_eq_true again⟩
  · exact Nat.zero_le 1

theorem eq_pumpFun_of_label_eq {protocol : Protocol}
    (same : protocol.label = Protocol.pumpFun.label) : protocol = .pumpFun := by
  cases protocol <;> first | rfl | exact absurd same (by decide)

/-- With the standard registry, every swap of the exchange that reports events was read off one. -/
theorem exists_mem_swapsFrom {transaction : Transaction} {blockTime : Timestamp}
    {blockNumber : Slot} {swap : SwapRecord}
    (found : swap ∈ transaction.swaps .standard blockTime blockNumber)
    (source : swap.source = Protocol.pumpFun.label) :
    ∃ position, swap ∈ swapsFrom ⟨.standard, transaction, transaction.transfers⟩ position blockTime
      blockNumber := by
  rw [Transaction.swaps, swaps_eq_filterMap_visits] at found
  split_ifs at found with touches
  · rcases List.mem_filterMap.mp found with ⟨visit, member, recorded⟩
    rcases Option.bind_eq_some_iff.mp recorded with ⟨run, ran, judged⟩
    rcases Option.bind_eq_some_iff.mp judged with ⟨candidate, candidateFound, judged⟩
    rcases Candidate.record?_eq_some judged with ⟨_, _, _, _, _, _, _, rfl⟩
    rcases fits_of_mem_visits member with ⟨_, fits⟩
    rcases run?_eq_some.mp (fits.ran ▸ ran) with ⟨entry, reads, context, _, matched⟩
    rcases reading?_eq_some.mp reads with ⟨program, _, registered, _⟩
    rcases Registry.get?_standard_eq_some registered with ⟨protocol, rfl, rfl⟩
    have candidateProtocol := Protocol.protocol_of_candidate (matched ▸ candidateFound)
    rw [context] at candidateProtocol
    change candidate.protocol.label = Protocol.pumpFun.label at source
    rw [candidateProtocol] at source
    have isPumpFun : protocol = .pumpFun := eq_pumpFun_of_label_eq source
    subst isPumpFun
    rcases MatchRun.exists_source? matched candidateFound with ⟨position, reported⟩
    refine ⟨position, ?_⟩
    rw [swapsFrom, if_pos touches, List.mem_filterMap]
    exact ⟨visit, List.mem_filter.mpr ⟨member, by simp [Visit.source?, ran, reported]⟩, recorded⟩
  · simp at found

/-- An event gives one swap at most, where the instructions that report events are apart. Two of
them read one event just if one counts as invoked by the other and that other has no event of its
own before it; whether depths are recorded or not, nothing in the search prevents this. With the
standard registry, every swap of the exchange that reports events is one of those counted here. -/
theorem events_counted_once (registry : Registry) (transaction : Transaction) :
    let detection : Detection := ⟨registry, transaction, transaction.transfers⟩
    (∀ position blockTime blockNumber,
      (detection.swapsFrom position blockTime blockNumber).Sublist
        (transaction.swaps registry blockTime blockNumber)) ∧
      (registry = .standard → ∀ blockTime blockNumber,
        ∀ swap ∈ transaction.swaps registry blockTime blockNumber,
          swap.source = Protocol.pumpFun.label →
            ∃ position, swap ∈ detection.swapsFrom position blockTime blockNumber) ∧
      (detection.ReportsApart ↔ detection.visits.Pairwise fun earlier later =>
        ∀ position, ¬(earlier.source? = some position ∧ later.source? = some position)) ∧
      (detection.ReportsApart → ∀ position blockTime blockNumber,
        (detection.swapsFrom position blockTime blockNumber).length ≤ 1) := by
  intro detection
  refine ⟨detection.swapsFrom_sublist_swaps, ?_, detection.reportsApart_iff,
    ReportsApart.length_swapsFrom_le⟩
  rintro rfl blockTime blockNumber swap found source
  exact exists_mem_swapsFrom found source

/-- A transaction of a trader on a bonding curve: a top-level instruction and those it invoked. -/
def curveTransaction (top : Instruction) (invoked : List Instruction) : Transaction where
  signature := "curve"
  accountKeys := ["Trader", "Global", "Fee", "Curve", Protocol.pumpFun.program, "Router"]
  loadedWritable := []
  loadedReadonly := []
  instructions := [top]
  innerGroups := [⟨0, invoked⟩]
  preBalances := []
  postBalances := []
  preTokenBalances := []
  postTokenBalances := []

/-- An instruction that trades on the curve. -/
def curveTrade (height : Option UInt32) : Instruction := ⟨4, [1, 2, 0, 3], "", height⟩

/-- The report of a trade of two units of the native currency for thirty-five of a token. -/
def curveReport (height : Option UInt32) : Instruction :=
  ⟨4, [], "6z5JQVKMf7bK7jy1UNZTYhDkYNa38ccFvacJ2oeMARxqEQttoZEw4q5CQsoURVAFBatHnGCNEjvTbDAYKCve5cQMRUH72cvJMdo7Voibr4kYtR9LuKB8FeCE9NDjy5A31pCja", height⟩

/-- Two trades on the curve, each with its report, are counted once each, even without depths. -/
theorem swapsFrom_reportedTrades :
    let transaction := curveTransaction ⟨5, [0], "", none⟩
      [curveTrade none, curveReport none, curveTrade none, curveReport none]
    let detection : Detection := ⟨.standard, transaction, transaction.transfers⟩
    detection.ReportsApart ∧
      (transaction.swaps .standard 1700000000 250000000).length = 2 ∧
      (detection.swapsFrom (.invoked 0 1) 1700000000 250000000).length = 1 ∧
      (∀ position, (detection.swapsFrom position 1700000000 250000000).length ≤ 1) ∧
      ∀ swap ∈ transaction.swaps .standard 1700000000 250000000,
        ∃ position, swap ∈ detection.swapsFrom position 1700000000 250000000 := by
  intro transaction detection
  have decided : detection.ReportsApart ∧
      (transaction.swaps .standard 1700000000 250000000).length = 2 ∧
      (detection.swapsFrom (.invoked 0 1) 1700000000 250000000).length = 1 ∧
      ∀ swap ∈ transaction.swaps .standard 1700000000 250000000,
        swap.source = Protocol.pumpFun.label := by
    decide +kernel
  rcases decided with ⟨apart, swaps, report, sources⟩
  rcases events_counted_once .standard transaction with ⟨_, counted, _, once⟩
  refine ⟨apart, swaps, report, fun position => once apart position _ _, ?_⟩
  intro swap found
  exact counted rfl _ _ swap found (sources swap found)

/-- One report is counted twice, if a trade invokes another one that reports it, or, without depths,
if a trade without a report comes before. -/
theorem swapsFrom_overlookedTrades :
    let nested := curveTransaction (curveTrade none) [curveTrade (some 2), curveReport (some 3)]
    let routed := curveTransaction ⟨5, [0], "", none⟩
      [curveTrade none, curveTrade none, curveReport none]
    ¬(swapsFrom ⟨.standard, nested, nested.transfers⟩ (.invoked 0 1) 1700000000
        250000000).length ≤ 1 ∧
      ¬(swapsFrom ⟨.standard, routed, routed.transfers⟩ (.invoked 0 2) 1700000000
        250000000).length ≤ 1 := by
  decide +kernel

end Detection

end SwapLedger
