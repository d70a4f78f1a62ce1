import SwapLedger.Proofs.BackfillRanges
import SwapLedger.Proofs.UndisturbedRuns

/-!
# Visits of backfills to slots

A backfill visits the slots of its range one after the other, until it is told to come to an end.
What it does in a visit, and how it goes down in the report, is settled by what the node, the ledger
and the queue answer. The report counts just what others have seen.
-/

namespace SwapLedger

/-- What others see of a backfill: it makes calls, and before each slot it looks whether it should
come to an end. -/
inductive BackfillEvent where
  | checked (stop : Bool)
  | called (answered : AnsweredCall Services)

namespace BackfillEvent

def of? : AnsweredRequest Services → Option BackfillEvent
  | ⟨.stopRequested, stop⟩ => some (.checked stop)
  | ⟨request, answer⟩ => (request.answeredCall? answer).map .called

/-- What others see of a run. -/
def ofTrace (trace : List (AnsweredRequest Services)) : List BackfillEvent := trace.filterMap of?

def call? : BackfillEvent → Option (AnsweredCall Services)
  | .called answered => some answered
  | .checked _ => none

def calls (events : List BackfillEvent) : List (AnsweredCall Services) := events.filterMap call?

variable {trace : List (AnsweredRequest Services)}

@[simp]
theorem ofTrace_report {entry : LogEntry} {answer : Unit} :
    ofTrace (⟨.report entry, answer⟩ :: trace) = ofTrace trace := rfl

@[simp]
theorem ofTrace_stopRequested {stop : Bool} :
    ofTrace (⟨.stopRequested, stop⟩ :: trace) = .checked stop :: ofTrace trace := rfl

@[simp]
theorem ofTrace_call {call : ServiceCall} {answer : call.Answer} :
    ofTrace (⟨.call call, answer⟩ :: trace) = .called ⟨call, some answer⟩ :: ofTrace trace := rfl

theorem ofTrace_append (before after : List (AnsweredRequest Services)) :
    ofTrace (before ++ after) = ofTrace before ++ ofTrace after := List.filterMap_append

@[simp]
theorem calls_cons_called {answered : AnsweredCall Services} {events : List BackfillEvent} :
    calls (.called answered :: events) = answered :: calls events := rfl

theorem calls_append (before after : List BackfillEvent) :
    calls (before ++ after) = calls before ++ calls after := List.filterMap_append

@[simp]
theorem calls_map_called (answered : List (AnsweredCall Services)) :
    calls (answered.map .called) = answered := by
  rw [calls, List.filterMap_map]
  exact List.filterMap_some

end BackfillEvent

/-- What becomes of a slot in a backfill. -/
inductive SlotFate (slot : Slot) where
  /-- The node has no block there. -/
  | skipped (number : Nat)
  /-- The node fails for another reason. -/
  | unfetched (failure : Failure) (other : ∀ number, failure ≠ .blockNotFound number)
  /-- The slot cannot be entered into the ledger. -/
  | unmarked (block : EncodedBlock) (failure : Failure)
  /-- The slot is entered into the ledger, and the items of its block are offered to the queue. -/
  | marked (block : EncodedBlock) (offers : List (WorkItem × Except Failure Unit))
      (offered : offers.map (·.1) = block.items slot)

namespace SlotFate

variable {slot : Slot}

/-- What the node answers. -/
def answer : SlotFate slot → Except Failure EncodedBlock
  | .skipped number => .error (.blockNotFound number)
  | .unfetched failure _ => .error failure
  | .unmarked block _ => .ok block
  | .marked block _ _ => .ok block

/-- The offers of items to the queue. -/
def publications (offers : List (WorkItem × Except Failure Unit)) : List (AnsweredCall Services) :=
  offers.map fun offer => ⟨.queue (.publish offer.1), some offer.2⟩

/-- The calls that follow the answer of the node. -/
def followUp : SlotFate slot → List (AnsweredCall Services)
  | .skipped _ | .unfetched _ _ => []
  | .unmarked _ failure => [⟨.store (.markProcessed slot), some (.error failure)⟩]
  | .marked _ offers _ => ⟨.store (.markProcessed slot), some (.ok ())⟩ :: publications offers

/-- The report with what becomes of the slot. -/
def enter (report : BackfillReport) : SlotFate slot → BackfillReport
  | .skipped _ => { report with skipped := report.skipped + 1 }
  | .unfetched _ _ | .unmarked _ _ => { report with failed := report.failed + 1 }
  | .marked _ offers _ =>
    { report with
      fetched := report.fetched + 1
      published := report.published + offers.countP (·.2.isOk) }

end SlotFate

/-- A visit of a backfill to a slot, in its turn among all calls of nodes. -/
structure SlotVisit where
  slot : Slot
  turn : Nat
  fate : SlotFate slot

namespace SlotVisit

variable (clients : Nat)

/-- The calls of a visit: one node is asked for the block, and what follows depends on its
answer. -/
def calls (visit : SlotVisit) : List (AnsweredCall Services) :=
  [⟨.shared .takeTurn, some visit.turn⟩,
    ⟨.node (visit.turn % clients) (.block visit.slot), some visit.fate.answer⟩] ++
      visit.fate.followUp

def events (visit : SlotVisit) : List BackfillEvent :=
  .checked false :: (visit.calls clients).map .called

end SlotVisit

namespace Backfill

open BackfillEvent

variable {clients : Nat} {slot : Slot} {report outcome : BackfillReport}
  {trace : List (AnsweredRequest Services)}

/-- Publishing offers each item once, in order and whatever came of those before it, and counts the
ones that were taken. -/
theorem exists_offers {items : List WorkItem}
    (traces : (publishAll slot items report).Traces trace outcome) :
    ∃ offers : List (WorkItem × Except Failure Unit), offers.map (·.1) = items ∧
      ofTrace trace = (SlotFate.publications offers).map .called ∧
      outcome = { report with published := report.published + offers.countP (·.2.isOk) } := by
  induction items generalizing report trace with
  | nil =>
      rcases Program.traces_pure.mp traces with ⟨rfl, rfl⟩
      exact ⟨[], rfl, rfl, rfl⟩
  | cons item rest ih =>
      rcases Program.traces_ask.mp traces with ⟨answer, _, rfl, published⟩
      rcases answer with failure | ⟨⟩
      · rcases Program.traces_request.mp published with ⟨_, later, rfl, reported⟩
        rcases ih reported with ⟨offers, rfl, seen, rfl⟩
        refine ⟨(item, .error failure) :: offers, rfl, ?_, ?_⟩
        · rw [ofTrace_call, ofTrace_report, seen]
          rfl
        · simp [Except.isOk, Except.toBool]
      · rcases ih published with ⟨offers, rfl, seen, rfl⟩
        refine ⟨(item, .ok ()) :: offers, rfl, ?_, ?_⟩
        · rw [ofTrace_call, seen]
          rfl
        · simp [Except.isOk, Except.toBool, Nat.add_assoc, Nat.add_comm]

/-- Reporting shows no backfill event. -/
theorem ofTrace_of_reportAll {entries : List LogEntry} {result : Unit}
    (traces : (Program.reportAll entries : Program Services Unit).Traces trace result) :
    ofTrace trace = [] := by
  rw [Program.traces_reportAll.mp traces, ofTrace, List.filterMap_map]
  exact List.filterMap_eq_nil_iff.mpr fun _ _ => rfl

/-- A slot that is given up leaves no trace but an entry of the log. -/
theorem traces_giveUp {entry : LogEntry} (traces :
    (Program.report entry >>= fun _ => pure report : Program Services _).Traces trace outcome) :
    ofTrace trace = [] ∧ outcome = report := by
  rcases Program.traces_request.mp traces with ⟨_, _, rfl, ended⟩
  rcases Program.traces_pure.mp ended with ⟨rfl, rfl⟩
  exact ⟨rfl, rfl⟩

/-- Dealing with a slot is a visit to it. -/
theorem exists_fate (traces : (fetchSlot clients slot report).Traces trace outcome) :
    ∃ (turn : Nat) (fate : SlotFate slot),
      .checked false :: ofTrace trace = (SlotVisit.mk slot turn fate).events clients ∧
        outcome = fate.enter report := by
  rw [fetchSlot] at traces
  rcases Program.traces_ask.mp traces with ⟨turn, _, rfl, asks⟩
  rcases Program.traces_ask.mp asks with ⟨answer, later, rfl, answered⟩
  simp only [ofTrace_call, SlotVisit.events, SlotVisit.calls]
  rcases answer with failure | block
  · by_cases missing : ∃ number, failure = .blockNotFound number
    · rcases missing with ⟨number, rfl⟩
      rcases traces_giveUp answered with ⟨seen, rfl⟩
      exact ⟨turn, .skipped number, by rw [seen]; rfl, rfl⟩
    · have other : ∀ number, failure ≠ .blockNotFound number := not_exists.mp missing
      have seen : ofTrace later = [] ∧ outcome = { report with failed := report.failed + 1 } := by
        cases failure <;> first
          | exact absurd rfl (other _)
          | exact traces_giveUp answered
      rcases seen with ⟨seen, rfl⟩
      exact ⟨turn, .unfetched failure other, by rw [seen]; rfl, rfl⟩
  · rcases Program.traces_ask.mp answered with ⟨answer, marked, rfl, entered⟩
    rw [ofTrace_call]
    rcases answer with failure | ⟨⟩
    · rcases traces_giveUp entered with ⟨seen, rfl⟩
      exact ⟨turn, .unmarked block failure, by rw [seen]; rfl, rfl⟩
    · change (Program.reportAll _ >>= fun _ => publishAll _ _ _).Traces marked outcome at entered
      rcases Program.traces_bind.mp entered with ⟨_, _, _, rfl, logged, published⟩
      rcases exists_offers published with ⟨offers, offered, seen, rfl⟩
      refine ⟨turn, .marked block offers offered, ?_, rfl⟩
      rw [ofTrace_append, ofTrace_of_reportAll logged, seen]
      rfl

/-- A backfill visits slots one after the other, until it is told to come to an end. -/
theorem exists_visits {count : Nat} (bounded : slot.toNat + count ≤ 2 ^ 64)
    (traces : (fetchSlots clients count slot report).Traces trace outcome) :
    ∃ visits : List SlotVisit,
      visits.map (·.slot) <+:
        ((List.range count).map fun offset => UInt64.ofNat (slot.toNat + offset)) ∧
      ofTrace trace = visits.flatMap (·.events clients) ++
        (if visits.length = count then [] else [.checked true]) ∧
      outcome = visits.foldl (fun report visit => visit.fate.enter report) report := by
  induction count generalizing slot report trace with
  | zero =>
      rcases Program.traces_pure.mp traces with ⟨rfl, rfl⟩
      exact ⟨[], List.nil_prefix, rfl, rfl⟩
  | succ count ih =>
      rcases Program.traces_request.mp traces with ⟨stop, later, rfl, decided⟩
      cases stop with
      | true =>
          rcases traces_giveUp decided with ⟨seen, rfl⟩
          refine ⟨[], List.nil_prefix, ?_, rfl⟩
          rw [ofTrace_stopRequested, seen]
          rfl
      | false =>
          rcases Program.traces_bind.mp decided with ⟨here, next, there, rfl, fetched, others⟩
          rcases exists_fate fetched with ⟨turn, fate, seen, rfl⟩
          have next : (slot + 1).toNat = (slot.toNat + 1) % 2 ^ 64 := UInt64.toNat_add slot 1
          rcases ih (by omega) others with ⟨visits, ordered, seenThere, rfl⟩
          refine ⟨⟨slot, turn, fate⟩ :: visits, ?_, ?_, rfl⟩
          · rw [SlotRange.map_range_succ slot count bounded, List.map_cons,
              List.prefix_cons_inj]
            exact ordered
          · rw [ofTrace_stopRequested, ofTrace_append, ← List.cons_append, seen, seenThere]
            simp only [List.flatMap_cons, List.length_cons, Nat.add_right_cancel_iff,
              List.append_assoc]

/-! ## What the report counts -/

/-- The number that the rotation gives. -/
def turn? : AnsweredCall Services → Option Nat
  | ⟨.shared .takeTurn, some turn⟩ => some turn
  | _ => none

/-- The node that is called. -/
def client? : AnsweredCall Services → Option Nat
  | ⟨.node client _, _⟩ => some client
  | _ => none

/-- Whether a node has no block at a slot. -/
def skips : AnsweredCall Services → Bool
  | ⟨.node _ (.block _), some (.error (.blockNotFound _))⟩ => true
  | _ => false

/-- Whether a slot enters the ledger. -/
def marks : AnsweredCall Services → Bool
  | ⟨.store (.markProcessed _), some (.ok ())⟩ => true
  | _ => false

/-- Whether an item is published. -/
def publishes : AnsweredCall Services → Bool
  | ⟨.queue (.publish _), some (.ok ())⟩ => true
  | _ => false

/-- Whether a report says what has happened to so many slots. -/
structure Tallies (report : BackfillReport) (calls : List (AnsweredCall Services)) (slots : Nat) :
    Prop where
  fetched_eq : report.fetched = calls.countP marks
  skipped_eq : report.skipped = calls.countP skips
  published_eq : report.published = calls.countP publishes
  sum_eq : report.fetched + report.skipped + report.failed = slots

theorem not_skips_of_other {client : Nat} {failure : Failure}
    (other : ∀ number, failure ≠ .blockNotFound number) :
    skips ⟨.node client (.block slot), some (.error failure)⟩ = false := by
  cases failure <;> first
    | rfl
    | exact absurd rfl (other _)

/-- What is counted over the calls of a visit that marked its slot: taking a turn, fetching,
marking, and the offers. -/
theorem countP_calls_marked {turn : Nat} {block : EncodedBlock}
    {offers : List (WorkItem × Except Failure Unit)}
    {offered : offers.map (·.1) = block.items slot} (counts : AnsweredCall Services → Bool) :
    ((SlotVisit.mk slot turn (.marked block offers offered)).calls clients).countP counts =
      [⟨.shared .takeTurn, some turn⟩, ⟨.node (turn % clients) (.block slot), some (.ok block)⟩,
        ⟨.store (.markProcessed slot), some (.ok ())⟩].countP counts +
          offers.countP fun offer => counts ⟨.queue (.publish offer.1), some offer.2⟩ := by
  change ([_, _, _] ++ SlotFate.publications offers).countP counts = _
  rw [List.countP_append, SlotFate.publications, List.countP_map]
  rfl

/-- A visit adds to the fetched blocks as many as its calls have marked. -/
theorem fetched_enter (visit : SlotVisit) : (visit.fate.enter report).fetched =
    report.fetched + (visit.calls clients).countP marks := by
  rcases visit with ⟨slot, turn, number | ⟨failure, other⟩ | ⟨block, failure⟩ | ⟨block, offers, _⟩⟩
  · rfl
  · rfl
  · rfl
  · have none : (offers.countP fun offer => marks ⟨.queue (.publish offer.1), some offer.2⟩) = 0 :=
      List.countP_eq_zero.mpr fun _ _ => Bool.false_ne_true
    rw [countP_calls_marked, none]
    rfl

/-- A visit adds to the skipped slots as many as its calls were told have no block. -/
theorem skipped_enter (visit : SlotVisit) : (visit.fate.enter report).skipped =
    report.skipped + (visit.calls clients).countP skips := by
  rcases visit with ⟨slot, turn, number | ⟨failure, other⟩ | ⟨block, failure⟩ | ⟨block, offers, _⟩⟩
  · rfl
  · have none : [(⟨.node (turn % clients) (.block slot), some (.error failure)⟩ :
        AnsweredCall Services)].countP skips = 0 :=
      List.countP_eq_zero.mpr fun answered member => by
        rw [List.mem_singleton.mp member, not_skips_of_other other]
        exact Bool.false_ne_true
    exact congrArg (report.skipped + ·) none.symm
  · rfl
  · have none : (offers.countP fun offer => skips ⟨.queue (.publish offer.1), some offer.2⟩) = 0 :=
      List.countP_eq_zero.mpr fun _ _ => Bool.false_ne_true
    rw [countP_calls_marked, none]
    rfl

/-- A visit adds to the published items as many as its calls have offered with success. -/
theorem published_enter (visit : SlotVisit) : (visit.fate.enter report).published =
    report.published + (visit.calls clients).countP publishes := by
  rcases visit with ⟨slot, turn, number | ⟨failure, other⟩ | ⟨block, failure⟩ | ⟨block, offers, _⟩⟩
  · rfl
  · rfl
  · rfl
  · have published (offer : WorkItem × Except Failure Unit) :
        publishes ⟨.queue (.publish offer.1), some offer.2⟩ = offer.2.isOk := by
      rcases offer with ⟨item, failure | ⟨⟩⟩ <;> rfl
    rw [countP_calls_marked]
    simp only [published]
    exact congrArg (report.published + ·) (Nat.zero_add _).symm

/-- A visit is counted once, and for what has come of it. -/
theorem Tallies.enter {calls : List (AnsweredCall Services)} {slots : Nat}
    (tallies : Tallies report calls slots) (visit : SlotVisit) :
    Tallies (visit.fate.enter report) (calls ++ visit.calls clients) (slots + 1) := by
  constructor
  case fetched_eq => rw [fetched_enter, tallies.fetched_eq, List.countP_append]
  case skipped_eq => rw [skipped_enter, tallies.skipped_eq, List.countP_append]
  case published_eq => rw [published_enter, tallies.published_eq, List.countP_append]
  case sum_eq =>
    have sum := tallies.sum_eq
    rcases visit with ⟨slot, turn, number | failure | ⟨block, failure⟩ | ⟨block, offers, _⟩⟩ <;>
      simp only [SlotFate.enter] <;> omega

/-- A report that tallies with some calls still does once further visits have been entered and their
calls added. -/
theorem Tallies.foldl {calls : List (AnsweredCall Services)} {slots : Nat}
    (tallies : Tallies report calls slots) (visits : List SlotVisit) :
    Tallies (visits.foldl (fun report visit => visit.fate.enter report) report)
      (calls ++ visits.flatMap (·.calls clients)) (slots + visits.length) := by
  induction visits generalizing report calls slots with
  | nil => simpa using tallies
  | cons visit rest ih =>
      rw [List.flatMap_cons, List.length_cons, ← List.append_assoc, Nat.add_comm rest.length,
        ← Nat.add_assoc]
      exact ih (tallies.enter visit)

end Backfill

end SwapLedger
