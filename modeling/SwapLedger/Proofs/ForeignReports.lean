import SwapLedger.Proofs.SharedEvents
import SwapLedger.Proofs.TradeReports

/-!
# Foreign reports

The exchange that moves the native currency without transfers reports a trade by invoking itself.
The search for its swaps does not ask who invoked what, though: it takes the first instruction with
the tag of trade events for the report, whichever program it belongs to. So whoever gets an
instruction of his own in front of the report can have any trade of any wallet recorded. This file
says exactly which swaps are recorded, and that they are those of the exchange where no instruction
of another program comes first.
-/

namespace SwapLedger

open TradeEvent (discriminator selfInvocationTag)

/-- A payload tells of an event right behind the first tag of trade events in it. -/
structure TradeEvent.ToldBy (event : TradeEvent) (payload : Bytes) : Prop where
  whole : event.IsWhole
  follows : ∃ offset tail, FirstOccursAt discriminator payload offset ∧
    payload.drop (offset + discriminator.length) = event.encode ++ tail

namespace Transaction

variable {transaction : Transaction} {position : Position} {instruction carrier : Instruction}
  {index : Nat} {event : TradeEvent}

variable (transaction) in
/-- An instruction belongs to the exchange that reports its trades as events. -/
def IsOwn (instruction : Instruction) : Prop :=
  instruction.programAddress? transaction.accounts = some Protocol.pumpFun.program

instance (transaction : Transaction) (instruction : Instruction) :
    Decidable (transaction.IsOwn instruction) :=
  inferInstanceAs (Decidable (_ = _))

variable (transaction) in
/-- At a position stands an instruction of the exchange that is not itself the report of an
event. -/
structure TradesAt (position : Position) (instruction : Instruction) : Prop where
  stands : transaction.instructionAt? position = some instruction
  own : transaction.IsOwn instruction
  notReport : ¬selfInvocationTag <+: instruction.payload

variable (transaction) in
/-- Of the instructions that the one at a position counts as having invoked, the one at a place of
the group is the first that holds the tag of trade events. -/
structure FirstTagged (position : Position) (index : Nat) (carrier : Instruction) : Prop where
  invoked : transaction.Invoked position index
  stands : transaction.instructionAt? (.invoked position.outer index) = some carrier
  tagged : discriminator <:+: carrier.payload
  first : ∀ earlier < index, transaction.Invoked position earlier → ∀ other,
    transaction.instructionAt? (.invoked position.outer earlier) = some other →
      ¬discriminator <:+: other.payload

variable (transaction) in
/-- What an instruction of the exchange traded, as an event tells. -/
def tradeOf (instruction : Instruction) (event : TradeEvent) : Candidate where
  protocol := .pumpFun
  wallet := event.userAddress
  pair := (instruction.account? transaction.accounts 3).getD ""
  tokenOut := event.given.1
  amountOut := event.given.2
  tokenIn := event.taken.1
  amountIn := event.taken.2

variable (transaction) in
/-- A swap is the record of what an instruction of the exchange traded, as told by the first tagged
one of those that it invoked. -/
structure RecordedFrom (swap : SwapRecord) (blockTime : Timestamp) (blockNumber : Slot)
    (position : Position) (index : Nat) (carrier : Instruction) : Prop where
  firstTagged : transaction.FirstTagged position index carrier
  recorded : ∃ instruction event, transaction.TradesAt position instruction ∧
    event.ToldBy carrier.payload ∧
    (transaction.tradeOf instruction event).record?
      ⟨transaction.signature, blockTime, blockNumber⟩ = some swap

end Transaction

namespace Detection

variable {detection : Detection} {registry : Registry} {transaction : Transaction} {visit : Visit}
  {instruction : Instruction} {position : Position} {blockTime : Timestamp} {blockNumber : Slot}
  {swap : SwapRecord}

/-! ## Visits -/

variable (detection) in
/-- Every instruction is visited. -/
theorem exists_visit (stands : detection.transaction.instructionAt? position = some instruction) :
    ∃ visit ∈ detection.visits, visit.position = position ∧ detection.Fits visit instruction := by
  have visited : ∃ visit ∈ detection.visits, visit.position = position := by
    simp only [visits, List.mem_flatMap, Prod.exists, List.mk_mem_zipIdx_iff_getElem?]
    rcases detection.transaction.instructionAt?_eq_some.mp stands with
      ⟨outer, rfl, topLevel⟩ | ⟨outer, index, rfl, outer_lt, inner⟩
    · exact ⟨_, ⟨instruction, outer, topLevel, List.mem_cons_self⟩, position_ownVisit⟩
    · have topLevel := List.getElem?_eq_getElem outer_lt
      have member : Position.invoked outer index ∈ (detection.visitsFrom outer
          ((detection.ownVisit detection.transaction.instructions[outer] outer).start +
            (detection.ownVisit detection.transaction.instructions[outer] outer).claimed)
          (detection.transaction.invokedBy outer).zipIdx).map Visit.position := by
        rw [map_position_visitsFrom, List.mem_map]
        exact ⟨(instruction, index), List.mk_mem_zipIdx_iff_getElem?.mpr inner, rfl⟩
      rcases List.mem_map.mp member with ⟨visit, visitMem, at_position⟩
      exact ⟨visit, ⟨_, outer, topLevel, List.mem_cons_of_mem _ visitMem⟩, at_position⟩
  rcases visited with ⟨visit, member, rfl⟩
  rcases fits_of_mem_visits member with ⟨visited, fits⟩
  have same := fits.stands.symm.trans stands
  rw [Option.some.injEq] at same
  exact ⟨visit, member, rfl, same ▸ fits⟩

section Slices

variable {context : MatchContext} {place index : Nat} {carrier : Instruction} {body : Bytes}
  (fits : detection.Fits visit instruction)
  (invoked : context.invoked = ((detection.transaction.invokedBy visit.position.outer).drop
    visit.first).take (visit.past - visit.first))

include fits

theorem Fits.getElem?_slice :
    (((detection.transaction.invokedBy visit.position.outer).drop visit.first).take
        (visit.past - visit.first))[place]? = some carrier ↔
      detection.transaction.Invoked visit.position (visit.first + place) ∧
        detection.transaction.instructionAt?
          (.invoked visit.position.outer (visit.first + place)) = some carrier := by
  rw [List.getElem?_take, Option.ite_none_right_eq_some, List.getElem?_drop,
    Transaction.instructionAt?_invoked_eq_some, Transaction.Invoked, ← fits.range]
  have outer_lt := Transaction.outer_lt_of_instructionAt? fits.stands
  constructor
  · rintro ⟨inside, stands⟩
    exact ⟨⟨Nat.le_add_right _ _, by omega⟩, outer_lt, stands⟩
  · rintro ⟨⟨_, lt_past⟩, _, stands⟩
    exact ⟨by omega, stands⟩

include invoked

/-- The first report that a matcher is shown is carried by the first tagged instruction of those
that its own one invoked. -/
theorem Fits.firstTagged_of_firstReport (report : context.FirstReport place body) :
    ∃ carrier offset,
      detection.transaction.FirstTagged visit.position (visit.first + place) carrier ∧
        FirstOccursAt discriminator carrier.payload offset ∧
        carrier.payload.drop (offset + discriminator.length) = body := by
  rcases report with ⟨⟨carrier, offset, stands, tagged, follows⟩, first⟩
  rw [invoked, fits.getElem?_slice] at stands
  refine ⟨carrier, offset, ⟨stands.1, stands.2, tagged.occurs.isInfix, ?_⟩, tagged, follows⟩
  intro earlier before earlierInvoked other otherStands
  have first_le : visit.first ≤ earlier := by
    rw [Transaction.Invoked, ← fits.range] at earlierInvoked
    exact earlierInvoked.1
  rcases Nat.exists_eq_add_of_le first_le with ⟨offset, rfl⟩
  apply first offset (by omega) other
  rw [invoked, fits.getElem?_slice]
  exact ⟨earlierInvoked, otherStands⟩

variable (context) in
/-- Conversely, a matcher is shown the first tagged instruction as its first report. -/
theorem Fits.exists_firstReport
    (firstTagged : detection.transaction.FirstTagged visit.position index carrier) {offset : Nat}
    (tagged : FirstOccursAt discriminator carrier.payload offset) :
    ∃ place, context.FirstReport place
      (carrier.payload.drop (offset + discriminator.length)) := by
  have first_le : visit.first ≤ index := by
    have invoked := firstTagged.invoked
    rw [Transaction.Invoked, ← fits.range] at invoked
    exact invoked.1
  rcases Nat.exists_eq_add_of_le first_le with ⟨place, rfl⟩
  refine ⟨place, ⟨carrier, offset, ?_, tagged, rfl⟩, ?_⟩
  · rw [invoked, fits.getElem?_slice]
    exact ⟨firstTagged.invoked, firstTagged.stands⟩
  · intro earlier before other otherStands
    rw [invoked, fits.getElem?_slice] at otherStands
    exact firstTagged.first _ (by omega) otherStands.1 other otherStands.2

end Slices

/-! ## Which swaps are recorded -/

theorem get?_standard_pumpFun :
    Registry.standard.get? Protocol.pumpFun.program = some (.ofProtocol .pumpFun) := rfl

/-- The standard registry reads an instruction that trades as one of the exchange that reports
events. -/
theorem reading?_of_tradesAt (trades : transaction.TradesAt position instruction)
    (transfers : List Transfer) :
    reading? ⟨.standard, transaction, transfers⟩ instruction = some (.ofProtocol .pumpFun) :=
  reading?_eq_some.mpr ⟨_, trades.own, get?_standard_pumpFun, rfl, trades.notReport⟩

theorem exists_recordedFrom (found : swap ∈ transaction.swaps .standard blockTime blockNumber)
    (source : swap.source = Protocol.pumpFun.label) :
    ∃ position index carrier,
      transaction.RecordedFrom swap blockTime blockNumber position index carrier := by
  rcases exists_match_of_mem_swaps found with
    ⟨visit, instruction, entry, context, candidate, fits, reads, sees, matched, recorded⟩
  rcases reading?_eq_some.mp reads with ⟨program, named, registered, _, notReport⟩
  rcases Registry.get?_standard_eq_some registered with ⟨protocol, rfl, rfl⟩
  have isPumpFun : protocol = .pumpFun := by
    have candidateProtocol : candidate.protocol = protocol :=
      (Protocol.protocol_of_candidate matched).trans (by rw [sees]; rfl)
    rcases Candidate.record?_eq_some recorded with ⟨_, _, _, _, _, _, _, rfl⟩
    exact eq_pumpFun_of_label_eq (candidateProtocol ▸ source)
  subst isPumpFun
  have finds := context.scanFinds_matcher
  change (Protocol.pumpFun.matcher context).candidate = some candidate at matched
  generalize Protocol.pumpFun.matcher context = outcome at finds matched
  cases finds with
  | untold => simp [MatchOutcome.nothing] at matched
  | garbled => simp [MatchOutcome.nothing] at matched
  | told whole report =>
      rcases fits.firstTagged_of_firstReport (by rw [sees]) report with
        ⟨carrier, offset, firstTagged, tagged, follows⟩
      rw [Option.some.injEq] at matched
      subst matched
      rw [sees] at recorded
      exact ⟨visit.position, _, carrier, firstTagged, instruction, _,
        ⟨fits.stands, named, notReport⟩, ⟨whole, offset, _, tagged, follows⟩, recorded⟩

theorem mem_swaps_of_recordedFrom {index : Nat} {carrier : Instruction}
    (recordedFrom : transaction.RecordedFrom swap blockTime blockNumber position index carrier) :
    swap ∈ transaction.swaps .standard blockTime blockNumber ∧
      swap.source = Protocol.pumpFun.label := by
  rcases recordedFrom with ⟨firstTagged, instruction, event, trades,
    ⟨whole, offset, tail, tagged, follows⟩, recorded⟩
  constructor
  · have reads := reading?_of_tradesAt trades transaction.transfers
    rcases exists_visit ⟨.standard, transaction, transaction.transfers⟩ trades.stands with
      ⟨visit, member, rfl, fits⟩
    have ran := fits.ran.trans (run_visit reads)
    generalize shown : contextOf _ _ _ _ _ _ _ _ _ = context at ran
    rcases fits.exists_firstReport context (by rw [← shown]; rfl) firstTagged tagged with
      ⟨place, report⟩
    rw [follows] at report
    have matched : (RegistryEntry.ofProtocol .pumpFun).matcher context =
        ⟨some (context.told event), (context.madeUpTo place).length⟩ :=
      MatchContext.matcher_of_scanFinds (.told whole report)
    have told : context.told event = transaction.tradeOf instruction event := by
      rw [← shown]
      rfl
    have judged : recordAt? ⟨.standard, transaction, transaction.transfers⟩ blockTime blockNumber
        visit = some swap := by
      rw [recordAt?, ran, matched, told]
      exact recorded
    have touches : Registry.standard.touches
        (table ⟨.standard, transaction, transaction.transfers⟩) := by
      refine List.any_eq_true.mpr ⟨_, List.mem_of_getElem? trades.own, ?_⟩
      rw [Registry.supports, get?_standard_pumpFun, Option.isSome_some]
    rw [Transaction.swaps, swaps_eq_filterMap_visits, if_pos touches, List.mem_filterMap]
    exact ⟨visit, member, judged⟩
  · rcases Candidate.record?_eq_some recorded with ⟨_, _, _, _, _, _, _, rfl⟩
    rfl

end Detection

namespace Transaction

/-- Wherever an instruction of the exchange invoked one with the tag of trade events, the first such
one is an instruction of the exchange as well. -/
def ReportsOwn (transaction : Transaction) : Prop :=
  ∀ position instruction index carrier, transaction.TradesAt position instruction →
    transaction.FirstTagged position index carrier → transaction.IsOwn carrier

/-- The swaps of the exchange that reports events are the records of what the first tagged
instructions below its own ones tell, whichever program those belong to. Where these belong to the
exchange as well, every such swap comes from an event of the exchange itself. -/
theorem reported_by_exchange (transaction : Transaction) (blockTime : Timestamp)
    (blockNumber : Slot) :
    (∀ swap, swap ∈ transaction.swaps .standard blockTime blockNumber ∧
        swap.source = Protocol.pumpFun.label ↔
      ∃ position index carrier,
        transaction.RecordedFrom swap blockTime blockNumber position index carrier) ∧
      (transaction.ReportsOwn → ∀ swap ∈ transaction.swaps .standard blockTime blockNumber,
        swap.source = Protocol.pumpFun.label →
          ∃ position index carrier,
            transaction.RecordedFrom swap blockTime blockNumber position index carrier ∧
              transaction.IsOwn carrier) := by
  constructor
  · intro swap
    constructor
    · rintro ⟨found, source⟩
      exact Detection.exists_recordedFrom found source
    · rintro ⟨position, index, carrier, recordedFrom⟩
      exact Detection.mem_swaps_of_recordedFrom recordedFrom
  · intro own swap found source
    rcases Detection.exists_recordedFrom found source with ⟨position, index, carrier, recordedFrom⟩
    rcases recordedFrom.recorded with ⟨instruction, event, trades, _⟩
    exact ⟨position, index, carrier, recordedFrom,
      own position instruction index carrier trades recordedFrom.firstTagged⟩

open Detection

/-- An instruction of a router that holds what a report of the exchange would hold: a trade of all
units that there can be, by a wallet of choice. -/
def forgedReport (height : Option UInt32) : Instruction :=
  ⟨5, [], "7k1SrPQt39YFLu41X75pcpiT7DjtCzZSeQJ1Mg8Gr1TpHH6wRPKh6zZRtaSivBEGzWMpX2GSFiepX2zrNTTUPjr213vfAvg78WHa7ZeiSXkSXdAKeUnvhT8Lpx", height⟩

theorem payload_curveReport (height : Option UInt32) : (curveReport height).payload =
    selfInvocationTag ++ (discriminator ++ MatchContext.curveEvent.encode) := by
  change Base58.decode (curveReport none).data = _
  decide +kernel

/-- A forged report that comes after the one of the exchange is not read. -/
theorem reported_by_exchange_forged_later :
    let transaction := curveTransaction ⟨5, [0], "", none⟩
      [curveTrade none, curveReport none, forgedReport none]
    transaction.ReportsOwn ∧ (transaction.swaps .standard 1700000000 250000000).length = 1 ∧
      ∀ swap ∈ transaction.swaps .standard 1700000000 250000000,
        ∃ position index carrier,
          transaction.RecordedFrom swap 1700000000 250000000 position index carrier ∧
            transaction.IsOwn carrier := by
  intro transaction
  have own : transaction.ReportsOwn := by
    intro position instruction index carrier trades firstTagged
    have carrierStands := (transaction.instructionAt?_invoked_eq_some.mp firstTagged.stands).2
    rcases transaction.instructionAt?_eq_some.mp trades.stands with
      ⟨_ | outer, rfl, stands⟩ | ⟨_ | outer, place, rfl, outer_lt, stands⟩
    · cases stands
      exact absurd trades.own (by decide)
    · cases stands
    · rcases place with _ | _ | _ | place
      · rcases index with _ | _ | _ | index <;> cases carrierStands
        · decide
        · decide
        · have untagged := firstTagged.first 1 (by decide) ⟨by decide, by decide⟩ _ rfl
          rw [payload_curveReport, ← List.append_assoc] at untagged
          exact absurd ⟨_, _, rfl⟩ untagged
      · cases stands
        have notReport := trades.notReport
        rw [payload_curveReport] at notReport
        exact absurd (List.prefix_append _ _) notReport
      · cases stands
        exact absurd trades.own (by decide)
      · cases stands
    · exact absurd outer_lt (by simp [transaction, curveTransaction])
  have decided : (transaction.swaps .standard 1700000000 250000000).length = 1 ∧
      ∀ swap ∈ transaction.swaps .standard 1700000000 250000000,
        swap.source = Protocol.pumpFun.label := by
    decide +kernel
  refine ⟨own, decided.1, fun swap found => ?_⟩
  exact (reported_by_exchange transaction _ _).2 own swap found (decided.2 swap found)

/-- A forged report is read for one of the exchange, although nothing else was invoked. -/
theorem not_reported_by_exchange :
    let transaction := curveTransaction (curveTrade none) [forgedReport none]
    ¬∀ swap ∈ transaction.swaps .standard 1700000000 250000000,
      swap.source = Protocol.pumpFun.label →
        ∃ position index carrier,
          transaction.RecordedFrom swap 1700000000 250000000 position index carrier ∧
            transaction.IsOwn carrier := by
  intro transaction reported
  have forged : ∃ swap ∈ transaction.swaps .standard 1700000000 250000000,
      swap.source = Protocol.pumpFun.label := by
    decide +kernel
  rcases forged with ⟨swap, found, source⟩
  rcases reported swap found source with ⟨position, index, carrier, recordedFrom, own⟩
  rcases transaction.instructionAt?_invoked_eq_some.mp recordedFrom.firstTagged.stands with
    ⟨outer_lt, stands⟩
  have outer_eq : position.outer = 0 := Nat.lt_one_iff.mp outer_lt
  rw [outer_eq] at stands
  rcases index with _ | index <;> cases stands
  exact absurd own (by decide)

end Transaction

end SwapLedger
