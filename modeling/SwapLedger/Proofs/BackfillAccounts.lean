import SwapLedger.Proofs.Servants
import SwapLedger.Proofs.SlotVisits

/-!
# How backfills account for slots

Over a whole backfill the report counts what others have seen, and each slot of the range is visited
in its turn, unless the backfill is told to come to an end. The nodes are called in turn as well. A
backfill never waits for what the parts of an instance share, so that every script of answers is
followed to the end.
-/

namespace SwapLedger

namespace Backfill

open BackfillEvent

variable {clients : Nat} {slot : Slot} {report outcome : BackfillReport}
  {trace : List (AnsweredRequest Services)}

/-! ## The rotation -/

/-- After the node has answered, only the ledger and the queue are called. -/
theorem store_or_queue_of_mem_followUp {fate : SlotFate slot} {answered : AnsweredCall Services}
    (member : answered ∈ fate.followUp) :
    (∃ call, answered.call = .store call) ∨ ∃ call, answered.call = .queue call := by
  rcases fate with number | ⟨failure, other⟩ | ⟨block, failure⟩ | ⟨block, offers, _⟩
  · cases member
  · cases member
  · rw [List.mem_singleton.mp member]
    exact .inl ⟨_, rfl⟩
  · rcases List.mem_cons.mp member with rfl | offered
    · exact .inl ⟨_, rfl⟩
    · rcases List.mem_map.mp offered with ⟨offer, _, rfl⟩
      exact .inr ⟨_, rfl⟩

theorem filterMap_followUp {Seen : Type} {see : AnsweredCall Services → Option Seen}
    (stored : ∀ call answer, see ⟨.store call, answer⟩ = none)
    (queued : ∀ call answer, see ⟨.queue call, answer⟩ = none) (fate : SlotFate slot) :
    fate.followUp.filterMap see = [] := by
  refine List.filterMap_eq_nil_iff.mpr fun answered member => ?_
  rcases answered with ⟨call, answer⟩
  rcases store_or_queue_of_mem_followUp member with ⟨call, rfl⟩ | ⟨call, rfl⟩
  · exact stored call answer
  · exact queued call answer

/-- What is seen of visits by those who look neither at the ledger nor at the queue. -/
theorem filterMap_flatMap_calls {Seen : Type} {see : AnsweredCall Services → Option Seen}
    {seen : SlotVisit → Seen} (stored : ∀ call answer, see ⟨.store call, answer⟩ = none)
    (queued : ∀ call answer, see ⟨.queue call, answer⟩ = none)
    (asked : ∀ visit : SlotVisit, [⟨.shared .takeTurn, some visit.turn⟩,
      ⟨.node (visit.turn % clients) (.block visit.slot), some visit.fate.answer⟩].filterMap see =
        [seen visit]) (visits : List SlotVisit) :
    (visits.flatMap (·.calls clients)).filterMap see = visits.map seen := by
  induction visits with
  | nil => rfl
  | cons visit rest ih =>
      rw [List.flatMap_cons, List.filterMap_append, ih, SlotVisit.calls, List.filterMap_append,
        filterMap_followUp stored queued, asked, List.append_nil, List.map_cons]
      rfl

theorem filterMap_turn?_visits (visits : List SlotVisit) :
    (visits.flatMap (·.calls clients)).filterMap turn? = visits.map (·.turn) :=
  filterMap_flatMap_calls (fun _ _ => rfl) (fun _ _ => rfl) (fun _ => rfl) visits

theorem filterMap_client?_visits (visits : List SlotVisit) :
    (visits.flatMap (·.calls clients)).filterMap client? = visits.map (·.turn % clients) :=
  filterMap_flatMap_calls (fun _ _ => rfl) (fun _ _ => rfl) (fun _ => rfl) visits

theorem filterMap_requested?_visits (visits : List SlotVisit) :
    (visits.flatMap (·.calls clients)).filterMap requested? = visits.map (·.slot) :=
  filterMap_flatMap_calls (fun _ _ => rfl) (fun _ _ => rfl) (fun _ => rfl) visits

/-- Of what is shared, a visit only takes a turn. -/
theorem exists_turn_of_mem_calls {visit : SlotVisit} {answered : AnsweredCall Services}
    (member : answered ∈ visit.calls clients) {call : SharedCall}
    (isShared : answered.call = .shared call) :
    ∃ turn, answered = ⟨.shared .takeTurn, some turn⟩ := by
  rcases List.mem_append.mp member with first | later
  · rcases List.mem_pair.mp first with rfl | rfl
    · exact ⟨visit.turn, rfl⟩
    · cases isShared
  · rcases store_or_queue_of_mem_followUp later with ⟨other, called⟩ | ⟨other, called⟩
    · cases called.symm.trans isShared
    · cases called.symm.trans isShared

theorem rotation_of_takeTurn {shared next : Shared} {turn : Nat}
    (served : Shared.Serves shared ⟨.shared .takeTurn, some turn⟩ next) :
    turn = shared.rotation ∧ next = { shared with rotation := shared.rotation + 1 } := by
  cases served with
  | answered moment served =>
      cases served
      exact ⟨rfl, rfl⟩
  | elsewhere outside => exact absurd rfl (outside _)

theorem eq_of_elsewhere {shared next : Shared} {answered : AnsweredCall Services}
    (served : Shared.Serves shared answered next)
    (outside : ∀ call, answered.call ≠ .shared call) : next = shared := by
  cases served with
  | answered => exact absurd rfl (outside _)
  | givenUp => rfl
  | elsewhere => rfl

/-- The rotation counts on from where it stands. -/
theorem turns_eq {shared last : Shared} {calls : List (AnsweredCall Services)}
    (served : Shared.Serves.Leads shared calls last)
    (only : ∀ answered ∈ calls, ∀ call, answered.call = .shared call →
      ∃ turn, answered = ⟨.shared .takeTurn, some turn⟩) :
    calls.filterMap turn? = List.range' shared.rotation (calls.filterMap turn?).length := by
  induction served with
  | nothing => rfl
  | @next shared middle last answered rest first _ ih =>
      have later := ih fun answered member => only answered (List.mem_cons_of_mem _ member)
      by_cases isShared : ∃ call, answered.call = .shared call
      · rcases isShared with ⟨call, isShared⟩
        rcases only answered List.mem_cons_self call isShared with ⟨turn, rfl⟩
        rcases rotation_of_takeTurn first with ⟨rfl, rfl⟩
        rw [List.filterMap_cons_some (show turn? _ = some _ from rfl), List.length_cons,
          List.range'_succ, ← later]
      · have outside : ∀ call, answered.call ≠ .shared call := not_exists.mp isShared
        have unturned : turn? answered = none := by
          rcases answered with ⟨call, answer⟩
          rw [turn?]
          rintro turn ⟨⟩
          exact outside _ rfl
        rw [List.filterMap_cons_none unturned]
        rw [eq_of_elsewhere first outside] at later
        exact later

/-! ## Scripts -/

/-- Whether a script tells the answers, except for the numbers that the rotation gives. -/
def Follows (script : Nat → (request : Request Services) → request.Answer) :
    (number : Nat) → List (AnsweredRequest Services) → Prop
  | _, [] => True
  | number, ⟨request, answer⟩ :: later =>
    (request ≠ .call (.shared .takeTurn) → answer = script number request) ∧
      Follows script (number + 1) later

/-- Whether a request is answered at once, wherever the rotation stands. -/
def AtOnce : Request Services → Prop
  | .call (.shared call) => call = .takeTurn
  | .unlessStopped _ => False
  | _ => True

/-- Whether a program never waits for what is shared. -/
def NeverWaits {Result : Type} : Program Services Result → Prop
  | .done _ => True
  | .ask request resume => AtOnce request ∧ ∀ answer, NeverWaits (resume answer)

theorem NeverWaits.bind {Result Other : Type} {program : Program Services Result}
    {next : Result → Program Services Other} (waits : NeverWaits program)
    (later : ∀ result, NeverWaits (next result)) : NeverWaits (program >>= next) := by
  induction program with
  | done result => exact later result
  | ask request resume ih => exact ⟨waits.1, fun answer => ih answer (waits.2 answer)⟩

theorem neverWaits_request {Result : Type} {request : Request Services}
    {next : request.Answer → Program Services Result} (atOnce : AtOnce request)
    (later : ∀ answer, NeverWaits (next answer)) : NeverWaits (Program.request request >>= next) :=
  ⟨atOnce, later⟩

theorem neverWaits_reportAll {entries : List LogEntry} :
    NeverWaits (Program.reportAll entries : Program Services Unit) := by
  induction entries with
  | nil => trivial
  | cons entry rest ih => exact ⟨trivial, fun _ => ih⟩

theorem neverWaits_publishAll {items : List WorkItem} :
    NeverWaits (publishAll slot items report) := by
  induction items generalizing report with
  | nil => trivial
  | cons item rest ih =>
      refine ⟨trivial, ?_⟩
      rintro (failure | ⟨⟩)
      · exact neverWaits_request trivial fun _ => ih
      · exact ih

theorem neverWaits_fetchSlot : NeverWaits (fetchSlot clients slot report) := by
  refine ⟨rfl, fun turn => ⟨trivial, ?_⟩⟩
  rintro (failure | block)
  · cases failure <;> exact ⟨trivial, fun _ => trivial⟩
  · refine ⟨trivial, ?_⟩
    rintro (failure | ⟨⟩)
    · exact ⟨trivial, fun _ => trivial⟩
    · exact neverWaits_reportAll.bind fun _ => neverWaits_publishAll

theorem neverWaits_fetchSlots {count : Nat} :
    NeverWaits (fetchSlots clients count slot report) := by
  induction count generalizing slot report with
  | zero => trivial
  | succ count ih =>
      refine neverWaits_request trivial fun stop => ?_
      cases stop with
      | true => exact ⟨trivial, fun _ => trivial⟩
      | false => exact neverWaits_fetchSlot.bind fun _ => ih

theorem neverWaits_fetchRange {first last : Slot} :
    NeverWaits (fetchRange clients first last) := by
  rw [fetchRange]
  split_ifs
  · trivial
  · refine neverWaits_request trivial fun _ => neverWaits_fetchSlots.bind fun _ => ?_
    exact ⟨trivial, fun _ => trivial⟩

theorem neverWaits_run {first last : Slot} : NeverWaits (run clients first last) := by
  rw [run]
  split_ifs
  · refine ⟨rfl, fun turn => ⟨trivial, ?_⟩⟩
    rintro (failure | tip)
    · trivial
    · exact neverWaits_fetchRange.bind fun _ => trivial
  · exact neverWaits_fetchRange.bind fun _ => trivial

theorem calls_ofTrace_cons (answered : AnsweredRequest Services) :
    calls (ofTrace (answered :: trace)) =
      (answered.request.answeredCall? answered.answer).toList ++ calls (ofTrace trace) := by
  rcases answered with ⟨request, answer⟩
  cases request with
  | unlessStopped request =>
      rw [ofTrace, List.filterMap_cons]
      simp only [of?]
      cases Request.answeredCall? (.unlessStopped request) answer <;> rfl
  | _ => rfl

/-- Only taking a turn changes what is shared. -/
theorem leads_of_atOnce {shared : Shared} {request : Request Services} {answer : request.Answer}
    (atOnce : AtOnce request) (other : request ≠ .call (.shared .takeTurn)) :
    Shared.Serves.Leads shared (request.answeredCall? answer).toList shared := by
  cases request with
  | call call =>
      cases call with
      | shared call => exact absurd (congrArg _ (congrArg _ atOnce)) other
      | _ => exact .next (.elsewhere nofun) (.nothing shared)
  | unlessStopped => exact atOnce.elim
  | _ => exact .nothing shared

/-- Every script tells a run, in which the rotation answers for the turns and the script for
everything else. -/
theorem exists_traces {Result : Type} {program : Program Services Result}
    (waits : NeverWaits program) (shared : Shared)
    (script : Nat → (request : Request Services) → request.Answer) (number : Nat) :
    ∃ trace result after, program.Traces trace result ∧
      Shared.Serves.Leads shared (calls (ofTrace trace)) after ∧ Follows script number trace := by
  induction program generalizing shared number with
  | done result => exact ⟨[], result, shared, .done result, .nothing shared, trivial⟩
  | ask request resume ih =>
      rcases waits with ⟨atOnce, waits⟩
      by_cases turns : request = .call (.shared .takeTurn)
      · subst turns
        let next : Shared := { shared with rotation := shared.rotation + 1 }
        rcases ih shared.rotation (waits _) next (number + 1) with
          ⟨trace, result, after, traces, served, follows⟩
        refine ⟨_, result, after, .ask shared.rotation traces, ?_, ?_, follows⟩
        · exact .next (.answered ⟨0, 0, 0, false⟩ rfl) served
        · exact fun other => absurd rfl other
      · rcases ih (script number request) (waits _) shared (number + 1) with
          ⟨trace, result, after, traces, served, follows⟩
        refine ⟨_, result, after, .ask _ traces, ?_, fun _ => rfl, follows⟩
        rw [calls_ofTrace_cons]
        exact (leads_of_atOnce atOnce turns).append served

/-! ## Whole backfills -/

/-- How a backfill of a range goes, from some turn of the rotation on. -/
structure Course (clients turn : Nat) (range : SlotRange) (events : List BackfillEvent)
    (report : BackfillReport) (visits : List SlotVisit) : Prop where
  /-- The slots of the range are visited in their order. -/
  slots_prefix : visits.map (·.slot) <+: range.slots
  /-- Nothing is seen but the visits, and what ends them early. -/
  events_eq : events = visits.flatMap (·.events clients) ++
    if visits.length = range.slots.length then [] else [.checked true]
  turns_eq : visits.map (·.turn) = List.range' turn visits.length
  /-- A visit asks for one block. -/
  requested_eq : (calls events).filterMap requested? = visits.map (·.slot)
  tallies : Tallies report (calls events) visits.length
  /-- Unless it is told to come to an end, the backfill visits all slots. -/
  complete : .checked true ∉ events → visits.map (·.slot) = range.slots
  /-- Nothing happens to a range without slots. -/
  empty : range.last < range.first → events = [] ∧ report = .zero

/-- What is seen of a backfill, and its outcome. A last slot of zero stands for the newest one, and
only finding that out can fail. -/
inductive Accounts (clients turn : Nat) (first : Slot) :
    (last : Slot) → List BackfillEvent → Except Failure BackfillReport → Prop where
  | given {last : Slot} {events : List BackfillEvent} {report : BackfillReport}
      {visits : List SlotVisit} (nonzero : last ≠ 0)
      (course : Course clients turn ⟨first, last⟩ events report visits) :
      Accounts clients turn first last events (.ok report)
  | newest {tip : Slot} {events : List BackfillEvent} {report : BackfillReport}
      {visits : List SlotVisit}
      (course : Course clients (turn + 1) ⟨first, tip⟩ events report visits) :
      Accounts clients turn first 0
        (.called ⟨.shared .takeTurn, some turn⟩ ::
          .called ⟨.node (turn % clients) .tip, some (.ok tip)⟩ :: events)
        (.ok report)
  | unknown (failure : Failure) :
      Accounts clients turn first 0
        [.called ⟨.shared .takeTurn, some turn⟩,
          .called ⟨.node (turn % clients) .tip, some (.error failure)⟩]
        (.error failure)

variable {first last : Slot} {shared after : Shared} {visits : List SlotVisit}
  {events : List BackfillEvent}

theorem calls_flatMap_events (visits : List SlotVisit) :
    calls (visits.flatMap (·.events clients)) = visits.flatMap (·.calls clients) := by
  rw [calls, List.filterMap_flatMap]
  exact List.flatMap_congr fun visit _ => calls_map_called _

theorem calls_visits_append (stopped : Prop) [Decidable stopped] (visits : List SlotVisit) :
    calls (visits.flatMap (·.events clients) ++ if stopped then [] else [.checked true]) =
      visits.flatMap (·.calls clients) := by
  rw [calls_append, calls_flatMap_events]
  split_ifs <;> exact List.append_nil _

theorem course_of_visits {range : SlotRange}
    (ordered : visits.map (·.slot) <+: range.slots)
    (seen : events = visits.flatMap (·.events clients) ++
      if visits.length = range.slots.length then [] else [.checked true])
    (served : Shared.Serves.Leads shared (calls events) after) :
    Course clients shared.rotation range events
      (visits.foldl (fun report visit => visit.fate.enter report) .zero) visits := by
  have called : calls events = visits.flatMap (·.calls clients) := by
    rw [seen]
    exact calls_visits_append _ visits
  rw [called] at served
  constructor
  case slots_prefix => exact ordered
  case events_eq => exact seen
  case turns_eq =>
    have turns := turns_eq served fun answered member call isShared => by
      rcases List.mem_flatMap.mp member with ⟨visit, _, here⟩
      exact exists_turn_of_mem_calls here isShared
    rwa [filterMap_turn?_visits, List.length_map] at turns
  case requested_eq => rw [called, filterMap_requested?_visits]
  case tallies =>
    have none : Tallies .zero [] 0 := ⟨rfl, rfl, rfl, rfl⟩
    rw [called]
    simpa only [List.nil_append, Nat.zero_add] using none.foldl visits
  case complete =>
    intro unstopped
    have all : visits.length = range.slots.length := by
      by_contra fewer
      rw [if_neg fewer] at seen
      rw [seen] at unstopped
      exact unstopped (List.mem_append_right _ List.mem_cons_self)
    exact ordered.eq_of_length (by rw [List.length_map, all])
  case empty =>
    intro inverted
    rw [SlotRange.slots_of_lt inverted] at ordered seen
    have nowhere : visits = [] := List.map_eq_nil_iff.mp (List.prefix_nil.mp ordered)
    rw [nowhere] at seen ⊢
    exact ⟨seen, rfl⟩

theorem exists_course (traces : (fetchRange clients first last).Traces trace report)
    (served : Shared.Serves.Leads shared (calls (ofTrace trace)) after) :
    ∃ visits, Course clients shared.rotation ⟨first, last⟩ (ofTrace trace) report visits := by
  rw [fetchRange] at traces
  by_cases inverted : last < first
  · rw [if_pos inverted] at traces
    rcases Program.traces_pure.mp traces with ⟨rfl, rfl⟩
    have unseen : ofTrace [] = List.flatMap (·.events clients) ([] : List SlotVisit) ++
        if 0 = (SlotRange.slots ⟨first, last⟩).length then [] else [.checked true] := by
      rw [SlotRange.slots_of_lt inverted]
      rfl
    have ordered : List.map (·.slot) ([] : List SlotVisit) <+: SlotRange.slots ⟨first, last⟩ :=
      List.nil_prefix
    exact ⟨[], course_of_visits ordered unseen served⟩
  · rw [if_neg inverted] at traces
    have ordered : first.toNat ≤ last.toNat :=
      UInt64.le_iff_toNat_le.mp (UInt64.not_lt.mp inverted)
    have bounded := last.toNat_lt
    rcases Program.traces_request.mp traces with ⟨_, _, rfl, begun⟩
    rcases Program.traces_bind.mp begun with ⟨before, report, rest, rfl, fetched, ended⟩
    rcases traces_giveUp ended with ⟨unseen, rfl⟩
    rcases exists_visits (by omega) fetched with ⟨visits, slots, seen, rfl⟩
    rw [ofTrace_report, ofTrace_append, unseen, List.append_nil] at served ⊢
    refine ⟨visits, course_of_visits slots ?_ served⟩
    rw [seen, SlotRange.slots, List.length_map, List.length_range]

/-- The nodes are called in turn. -/
theorem Course.clients_eq {turn : Nat} {range : SlotRange}
    (course : Course clients turn range events report visits) :
    (calls events).filterMap client? = (List.range' turn visits.length).map (· % clients) := by
  rw [course.events_eq, calls_visits_append, filterMap_client?_visits, ← course.turns_eq,
    List.map_map]
  rfl

theorem Accounts.exists_clients_eq {turn : Nat} {outcome : Except Failure BackfillReport}
    (accounts : Accounts clients turn first last events outcome) : ∃ number,
      (calls events).filterMap client? = (List.range' turn number).map (· % clients) := by
  cases accounts with
  | given _ course => exact ⟨_, course.clients_eq⟩
  | @newest _ _ _ visits course =>
      refine ⟨visits.length + 1, ?_⟩
      rw [List.range'_succ, List.map_cons, ← course.clients_eq]
      rfl
  | unknown failure => exact ⟨1, rfl⟩

theorem accounts_of_traces {outcome : Except Failure BackfillReport}
    (traces : (run clients first last).Traces trace outcome)
    (served : Shared.Serves.Leads shared (calls (ofTrace trace)) after) :
    Accounts clients shared.rotation first last (ofTrace trace) outcome := by
  have ended {last : Slot} {trace : List (AnsweredRequest Services)}
      (traces : (fetchRange clients first last >>= fun report => pure (.ok report)).Traces
        trace outcome) :
      ∃ report, outcome = .ok report ∧ (fetchRange clients first last).Traces trace report := by
    rcases Program.traces_bind.mp traces with ⟨before, report, after, rfl, fetched, ended⟩
    rcases Program.traces_pure.mp ended with ⟨rfl, rfl⟩
    exact ⟨report, rfl, by rwa [List.append_nil]⟩
  rw [run] at traces
  by_cases newest : last = 0
  · rw [if_pos newest] at traces
    subst newest
    rcases Program.traces_ask.mp traces with ⟨turn, _, rfl, asks⟩
    rcases Program.traces_ask.mp asks with ⟨answer, later, rfl, answered⟩
    simp only [ofTrace_call, calls_cons_called] at served ⊢
    rcases served with _ | ⟨taken, served⟩
    rcases served with _ | ⟨asked, served⟩
    rcases rotation_of_takeTurn taken with ⟨rfl, rfl⟩
    cases eq_of_elsewhere asked fun _ same => by cases same
    rcases answer with failure | tip
    · rcases Program.traces_pure.mp answered with ⟨rfl, rfl⟩
      exact .unknown failure
    · rcases ended answered with ⟨report, rfl, fetched⟩
      rcases exists_course fetched served with ⟨visits, course⟩
      exact .newest course
  · rw [if_neg newest] at traces
    rcases ended traces with ⟨report, rfl, fetched⟩
    rcases exists_course fetched served with ⟨visits, course⟩
    exact .given newest course

variable (clients) in
/-- Whether a backfill can go in some way, given what the parts of the instance share. -/
structure Goes (shared : Shared) (first last : Slot) (trace : List (AnsweredRequest Services))
    (outcome : Except Failure BackfillReport) : Prop where
  traces : (run clients first last).Traces trace outcome
  served : ∃ after, Shared.Serves.Leads shared (calls (ofTrace trace)) after

/-- A backfill accounts for the slots of its range, in their order, as far as it gets; it gets
through the range unless it is told to come to an end. The nodes are called in turn, from where the
rotation stands. -/
theorem run_accounts (clients : Nat) (shared : Shared) (first last : Slot) :
    (∀ script, ∃ trace outcome,
      Goes clients shared first last trace outcome ∧ Follows script 0 trace) ∧
    ∀ trace outcome, Goes clients shared first last trace outcome →
      Accounts clients shared.rotation first last (ofTrace trace) outcome ∧
      ∃ number, (calls (ofTrace trace)).filterMap client? =
        (List.range' shared.rotation number).map (· % clients) := by
  constructor
  · intro script
    rcases exists_traces neverWaits_run shared script 0 with
      ⟨trace, outcome, after, traces, served, follows⟩
    exact ⟨trace, outcome, ⟨traces, after, served⟩, follows⟩
  · rintro trace outcome ⟨traces, after, served⟩
    have accounts := accounts_of_traces traces served
    exact ⟨accounts, accounts.exists_clients_eq⟩

/-- A backfill from slot five to the newest one finds no block there, and is told to come to an end
before the next slot. -/
theorem run_accounts_interrupted :
    let shared : Shared := { Shared.initial 1 with rotation := 3 }
    let counts : BackfillReport := ⟨0, 1, 0, 0⟩
    let ends : List (String × LogValue) := [("from", .number 5), ("to", .number 7)]
    let entry (text : String) (fields : List (String × LogValue)) : AnsweredRequest Services :=
      ⟨.report (.plain .info .backfill text fields), ()⟩
    let trace : List (AnsweredRequest Services) :=
      [⟨.call (.shared .takeTurn), (3 : Nat)⟩,
        ⟨.call (.node 1 .tip), (.ok 7 : Except Failure Slot)⟩,
        entry "Starting backfill" ends, ⟨.stopRequested, false⟩,
        ⟨.call (.shared .takeTurn), (4 : Nat)⟩,
        ⟨.call (.node 0 (.block 5)), (.error (.blockNotFound 5) : Except Failure EncodedBlock)⟩,
        ⟨.report (.plain .debug .backfill "Slot skipped by the ledger" [("slot", .number 5)]), ()⟩,
        ⟨.stopRequested, true⟩,
        entry "Backfill interrupted by shutdown" [("slot", .number 6)],
        entry "Backfill finished" (ends ++ counts.logFields)]
    Goes 2 shared 5 0 trace (.ok counts) ∧
      Accounts 2 3 5 0 (ofTrace trace) (.ok counts) := by
  intro shared counts ends entry trace
  have goes : Goes 2 shared 5 0 trace (.ok counts) := by
    constructor
    case traces =>
      exact .ask _ (.ask _ (.ask _ (.ask _ (.ask _ (.ask _ (.ask _ (.ask _ (.ask _ (.ask _
        (.done _))))))))))
    case served =>
      exact ⟨_, .next (.answered ⟨0, 0, 0, false⟩ rfl) (.next (.elsewhere nofun)
        (.next (.answered ⟨0, 0, 0, false⟩ rfl) (.next (.elsewhere nofun) (.nothing _))))⟩
  exact ⟨goes, ((run_accounts 2 shared 5 0).2 trace (.ok counts) goes).1⟩

end Backfill

end SwapLedger
