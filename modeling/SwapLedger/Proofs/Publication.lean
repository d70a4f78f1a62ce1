import SwapLedger.Backfill
import SwapLedger.Listener
import SwapLedger.Proofs.Discipline
import SwapLedger.Proofs.LedgerHoles

/-!
# Blocks between the ledger and the queue

A block enters the ledger before its items are published. What happens in between decides whether
the ledger tells the truth: if an item cannot be published, or the program is stopped before the
last of them, the block stands in the ledger, and nobody looks for it again. In all other cases it
is in the ledger just if its items have been published, and is found missing otherwise.
-/

namespace SwapLedger

/-- What is done about a block that others can tell. -/
inductive IntakeEvent where
  | received (block : EncodedBlock)
  /-- Asked to enter a slot into the ledger, and was told that it is there or not. -/
  | marked (slot : Slot) (done : Bool)
  /-- Asked to publish an item, and was told that it is published or not. -/
  | published (item : WorkItem) (done : Bool)

namespace IntakeEvent

/-- What a call is to others. -/
def of? : AnsweredCall Services → Option IntakeEvent
  | ⟨.node _ (.block _), some (.ok block)⟩ => some (.received block)
  | ⟨.store (.markProcessed slot), some (.ok ())⟩ => some (.marked slot true)
  | ⟨.store (.markProcessed slot), _⟩ => some (.marked slot false)
  | ⟨.queue (.publish item), some (.ok ())⟩ => some (.published item true)
  | ⟨.queue (.publish item), _⟩ => some (.published item false)
  | _ => none

def received? : IntakeEvent → Option EncodedBlock
  | .received block => some block
  | _ => none

def isPublication : IntakeEvent → Bool
  | .published _ _ => true
  | _ => false

end IntakeEvent

/-- What is known about a block so far. -/
inductive BlockStage where
  | awaited
  | received (items : List WorkItem)
  /-- The ledger could not be written. -/
  | refused
  /-- The block is in the ledger; these items have not been tried, and some may have failed. -/
  | publishing (pending : List WorkItem) (failed : Bool)

namespace BlockStage

/-- How a block is dealt with. -/
inductive Advances (slot : Slot) : BlockStage → IntakeEvent → BlockStage → Prop where
  | received (block : EncodedBlock) :
      Advances slot .awaited (.received block) (.received (block.items slot))
  | refused (items : List WorkItem) : Advances slot (.received items) (.marked slot false) .refused
  | marked (items : List WorkItem) :
      Advances slot (.received items) (.marked slot true) (.publishing items false)
  | published (item : WorkItem) (rest : List WorkItem) (failed done : Bool) :
      Advances slot (.publishing (item :: rest) failed) (.published item done)
        (.publishing rest (failed || !done))

/-- The discipline of those who deal with blocks. -/
def discipline (slot : Slot) : Discipline Services IntakeEvent BlockStage :=
  ⟨IntakeEvent.of?, Advances slot⟩

/-- Whether a block may be left as it is: all of its items have been tried, or one has failed. -/
def Ended : BlockStage → Prop
  | .awaited | .refused => True
  | .received _ => False
  | .publishing pending failed => failed = true ∨ pending = []

variable {slot : Slot} {items : List WorkItem}

theorem keeps_listener_publishAll {ends : Except Failure Unit → BlockStage → Prop}
    (all : ends (.ok ()) (.publishing [] false))
    (notAll : ∀ failure pending, ends (.error failure) (.publishing pending true)) :
    (Listener.publishAll items).Keeps (discipline slot) ends (.publishing items false) := by
  induction items with
  | nil => exact Program.keeps_pure all
  | cons item rest ih =>
      apply Program.Keeps.bind
      intro answer
      rcases answer with failure | ⟨⟩
      · exact ⟨_, .published item rest false false, Program.keeps_pure (notAll failure rest)⟩
      · exact ⟨_, .published item rest false true, ih⟩

theorem keeps_handleBlock {block : EncodedBlock} :
    (Listener.handleBlock slot block).Keeps (discipline slot) (fun _ stage => stage.Ended)
      (.received (block.items slot)) := by
  rw [Listener.handleBlock]
  refine Program.silent_reportAll.keeps_bind fun _ => ?_
  apply Program.Keeps.bind
  intro answer
  rcases answer with failure | ⟨⟩
  · exact ⟨_, .refused _, Program.keeps_pure trivial⟩
  · refine ⟨_, .marked _, .bind (keeps_listener_publishAll ?_ ?_)⟩
    · exact (Program.silent_call fun _ => rfl).keeps_bind fun _ => Program.keeps_pure (.inr rfl)
    · exact fun failure pending => Program.keeps_pure (.inl rfl)

theorem keeps_backfill_publishAll {report : BackfillReport} {failed : Bool}
    {ends : BackfillReport → BlockStage → Prop}
    (tried : ∀ report failed, ends report (.publishing [] failed)) :
    (Backfill.publishAll slot items report).Keeps (discipline slot) ends
      (.publishing items failed) := by
  induction items generalizing report failed with
  | nil => exact Program.keeps_pure (tried report failed)
  | cons item rest ih =>
      apply Program.Keeps.bind
      intro answer
      rcases answer with failure | ⟨⟩
      · exact ⟨_, .published item rest failed false,
          (Program.silent_request rfl).keeps_bind fun _ => ih⟩
      · exact ⟨_, .published item rest failed true, ih⟩

theorem keeps_fetchSlot {clients : Nat} {report : BackfillReport} :
    (Backfill.fetchSlot clients slot report).Keeps (discipline slot) (fun _ stage => stage.Ended)
      .awaited := by
  have giveUp (stage : BlockStage) (ended : stage.Ended) (entry : LogEntry)
      (report : BackfillReport) :
      (Program.report entry >>= fun _ => pure report).Keeps (discipline slot)
        (fun _ stage => stage.Ended) stage :=
    (Program.silent_request rfl).keeps_bind fun _ => Program.keeps_pure ended
  have nextClient : (Backfill.nextClient clients).Silent (discipline slot) :=
    (Program.silent_call fun _ => rfl).bind fun _ => Program.silent_pure
  rw [Backfill.fetchSlot]
  refine nextClient.keeps_bind fun client => ?_
  apply Program.Keeps.bind
  intro answer
  rcases answer with failure | block
  · refine ⟨.awaited, rfl, ?_⟩
    cases failure <;> exact giveUp .awaited trivial _ _
  · refine ⟨_, .received block, ?_⟩
    apply Program.Keeps.bind
    intro answer
    rcases answer with failure | ⟨⟩
    · exact ⟨_, .refused _, giveUp .refused trivial _ _⟩
    · refine ⟨_, .marked _, Program.silent_reportAll.keeps_bind fun _ => ?_⟩
      exact keeps_backfill_publishAll fun _ _ => .inr rfl

end BlockStage

/-- The tables, and what has been published. -/
structure Intake where
  tables : Tables
  published : List WorkItem

namespace Intake

/-- What becomes of tables and publications. What fails has no effect. -/
def after (intake : Intake) : IntakeEvent → Intake
  | .marked slot true => { intake with tables := intake.tables.mark slot }
  | .published item true => { intake with published := intake.published ++ [item] }
  | _ => intake

/-- Whether a slot is in the ledger. -/
def Ledgered (intake : Intake) (slot : Slot) : Prop :=
  Tables.ledgerNumber slot ∈ intake.tables.processed

instance (intake : Intake) (slot : Slot) : Decidable (intake.Ledgered slot) :=
  inferInstanceAs (Decidable (_ ∈ _))

/-- Whether a slot is found missing as soon as there are lower and higher ones in the ledger,
without it being entered in the meantime. -/
def LeavesHole (intake : Intake) (slot : Slot) : Prop :=
  ∀ later : List Slot,
    let tables := later.foldl Tables.mark intake.tables
    Tables.ledgerNumber slot ∉ tables.processed →
      (∃ low ∈ tables.processed, low < Tables.ledgerNumber slot) →
      (∃ high ∈ tables.processed, Tables.ledgerNumber slot < high) → slot ∈ tables.missing

theorem leavesHole {intake : Intake} (wellLedgered : intake.tables.WellLedgered) (slot : Slot) :
    intake.LeavesHole slot := by
  intro later tables
  exact Tables.mem_missing (wellLedgered.foldl_mark later)

end Intake

namespace BlockStage

variable {slot : Slot} {items : List WorkItem} {events : List IntakeEvent} {last : BlockStage}

/-- Items that were tried, and whether they were published. -/
def publications (outcomes : List (WorkItem × Bool)) : List IntakeEvent :=
  outcomes.map fun (item, done) => .published item done

/-- Once a block is in the ledger, its items are tried in order. -/
theorem exists_publications {failed : Bool}
    (leads : (discipline slot).Leads (.publishing items failed) events last) :
    ∃ outcomes pending, events = publications outcomes ∧ items = outcomes.map (·.1) ++ pending ∧
      last = .publishing pending (failed || outcomes.any (!·.2)) := by
  induction events generalizing items failed with
  | nil =>
      cases leads
      exact ⟨[], items, rfl, rfl, by simp⟩
  | cons event events ih =>
      cases leads with
      | next first rest =>
          cases first with
          | published item pending _ done =>
              rcases ih rest with ⟨outcomes, pending, rfl, rfl, rfl⟩
              refine ⟨(item, done) :: outcomes, pending, rfl, rfl, ?_⟩
              rw [List.any_cons, Bool.or_assoc]

/-- What happens to a block that is at hand. -/
theorem events_of_received (leads : (discipline slot).Leads (.received items) events last) :
    (events = [] ∧ last = .received items) ∨ (events = [.marked slot false] ∧ last = .refused) ∨
      ∃ outcomes pending, events = .marked slot true :: publications outcomes ∧
        items = outcomes.map (·.1) ++ pending ∧
        last = .publishing pending (outcomes.any (!·.2)) := by
  cases leads with
  | nothing => exact .inl ⟨rfl, rfl⟩
  | next first rest =>
      cases first with
      | refused =>
          cases rest with
          | nothing => exact .inr (.inl ⟨rfl, rfl⟩)
          | next impossible _ => cases impossible
      | marked =>
          rcases exists_publications rest with ⟨outcomes, pending, rfl, rfl, rfl⟩
          exact .inr (.inr ⟨outcomes, pending, rfl, rfl, rfl⟩)

theorem received?_of_received (leads : (discipline slot).Leads (.received items) events last) :
    events.filterMap IntakeEvent.received? = [] := by
  rcases events_of_received leads with ⟨rfl, _⟩ | ⟨rfl, _⟩ | ⟨outcomes, _, rfl, _⟩
  · rfl
  · rfl
  · refine List.filterMap_eq_nil_iff.mpr fun event member => ?_
    rcases List.mem_cons.mp member with rfl | member
    · rfl
    · rcases List.mem_map.mp member with ⟨outcome, _, rfl⟩
      rfl

theorem foldl_after_publications (intake : Intake) (outcomes : List (WorkItem × Bool)) :
    (publications outcomes).foldl Intake.after intake =
      ⟨intake.tables, intake.published ++ (outcomes.filter (·.2)).map (·.1)⟩ := by
  induction outcomes generalizing intake with
  | nil => simp [publications]
  | cons outcome rest ih =>
      rcases outcome with ⟨item, _ | _⟩
      · exact ih intake
      · rw [publications, List.map_cons, List.foldl_cons]
        refine (ih _).trans ?_
        simp [Intake.after]

theorem length_publications (outcomes : List (WorkItem × Bool)) :
    ((publications outcomes).filter IntakeEvent.isPublication).length = outcomes.length := by
  have all : (publications outcomes).filter IntakeEvent.isPublication = publications outcomes := by
    rw [List.filter_eq_self]
    intro event member
    rcases List.mem_map.mp member with ⟨outcome, _, rfl⟩
    rfl
  rw [all, publications, List.length_map]

end BlockStage

/-- What has become of a block that was not in the ledger: it is there just if its items have been
published, except that one may have failed or the program may have been stopped in between. -/
structure PublishedIfLedgered (slot : Slot) (items : List WorkItem) (stopped : Prop)
    (events : List IntakeEvent) (before : Intake) : Prop where
  ledgered : (events.foldl Intake.after before).Ledgered slot →
    (events.foldl Intake.after before).published = before.published ++ items ∨
      (∃ item ∈ items, .published item false ∈ events) ∨
      stopped ∧ (events.filter IntakeEvent.isPublication).length < items.length
  otherwise : ¬ (events.foldl Intake.after before).Ledgered slot →
    (events.foldl Intake.after before).published = before.published ∧
      (events.foldl Intake.after before).LeavesHole slot

namespace BlockStage

variable {slot : Slot} {items : List WorkItem} {events : List IntakeEvent} {last : BlockStage}
  {before : Intake}

theorem publishedIfLedgered_of_unmarked (wellLedgered : before.tables.WellLedgered)
    (unledgered : ¬ before.Ledgered slot) (stopped : Prop)
    (unchanged : events.foldl Intake.after before = before) :
    PublishedIfLedgered slot items stopped events before := by
  constructor
  · intro ledgered
    rw [unchanged] at ledgered
    exact absurd ledgered unledgered
  · intro _
    rw [unchanged]
    exact ⟨rfl, Intake.leavesHole wellLedgered slot⟩

theorem publishedIfLedgered_of_marked {outcomes : List (WorkItem × Bool)} {pending : List WorkItem}
    {stopped : Prop} (ended : ¬ stopped → outcomes.any (!·.2) = true ∨ pending = []) :
    PublishedIfLedgered slot (outcomes.map (·.1) ++ pending) stopped
      (.marked slot true :: publications outcomes) before := by
  have effect : (IntakeEvent.marked slot true :: publications outcomes).foldl Intake.after before =
      ⟨before.tables.mark slot, before.published ++ (outcomes.filter (·.2)).map (·.1)⟩ :=
    foldl_after_publications _ outcomes
  constructor
  · intro _
    rw [effect]
    by_cases someFailed : outcomes.any (!·.2) = true
    · rcases List.any_eq_true.mp someFailed with ⟨⟨item, done⟩, member, failed⟩
      rw [Bool.not_eq_true'] at failed
      subst failed
      exact .inr (.inl ⟨item, List.mem_append_left _ (List.mem_map_of_mem member),
        List.mem_cons_of_mem _ (List.mem_map_of_mem member)⟩)
    · have allDone : outcomes.filter (·.2) = outcomes := by
        rw [List.filter_eq_self]
        intro outcome member
        by_contra missed
        exact someFailed (List.any_eq_true.mpr ⟨outcome, member, by simpa using missed⟩)
      rcases pending with _ | ⟨item, pending⟩
      · left
        rw [allDone, List.append_nil]
      · refine .inr (.inr ⟨?_, ?_⟩)
        · by_contra finished
          rcases ended finished with failed | nothing
          · exact someFailed failed
          · cases nothing
        · rw [List.filter_cons_of_neg (by simp [IntakeEvent.isPublication]), length_publications]
          simp
  · intro absent
    rw [effect] at absent
    exact absurd (Tables.mem_mark.mpr (.inl rfl)) absent

/-- A block that is at hand gets into the ledger and its items into the queue. -/
theorem publishedIfLedgered_of_received (wellLedgered : before.tables.WellLedgered)
    (unledgered : ¬ before.Ledgered slot) {stopped : Prop} (ended : ¬ stopped → last.Ended)
    (leads : (discipline slot).Leads (.received items) events last) :
    PublishedIfLedgered slot items stopped events before := by
  rcases events_of_received leads with ⟨rfl, rfl⟩ | ⟨rfl, rfl⟩ | ⟨outcomes, pending, rfl, rfl, rfl⟩
  · exact publishedIfLedgered_of_unmarked wellLedgered unledgered _ rfl
  · exact publishedIfLedgered_of_unmarked wellLedgered unledgered _ rfl
  · exact publishedIfLedgered_of_marked ended

/-- A block that is to be fetched is dealt with like one at hand as soon as it has been received. -/
theorem publishedIfLedgered_of_awaited (wellLedgered : before.tables.WellLedgered)
    (unledgered : ¬ before.Ledgered slot) {stopped : Prop} (ended : ¬ stopped → last.Ended)
    (leads : (discipline slot).Leads .awaited events last) :
    PublishedIfLedgered slot ((events.filterMap IntakeEvent.received?).flatMap (·.items slot))
      stopped events before := by
  cases leads with
  | nothing => exact publishedIfLedgered_of_unmarked wellLedgered unledgered _ rfl
  | next first rest =>
      cases first with
      | received block =>
          rw [List.filterMap_cons, IntakeEvent.received?, received?_of_received rest,
            List.flatMap_singleton]
          rcases publishedIfLedgered_of_received wellLedgered unledgered ended rest with
            ⟨ledgered, otherwise⟩
          refine ⟨fun there => ?_, otherwise⟩
          rcases ledgered there with all | ⟨item, member, failed⟩ | stopped
          · exact .inl all
          · exact .inr (.inl ⟨item, member, List.mem_cons_of_mem _ failed⟩)
          · exact .inr (.inr stopped)

end BlockStage

/-- A block that has entered the ledger, whoever dealt with it, has been published, unless an item
could not be published or the program was stopped before the last of them. A block that has not is
not published at all, and is found missing. -/
theorem ledgered_blocks_published (before : List Slot) (published : List WorkItem) (slot : Slot)
    (unledgered : ¬ (⟨before.foldl Tables.mark .empty, published⟩ : Intake).Ledgered slot) :
    (∀ block calls rest, (Listener.handleBlock slot block).Reaches calls rest →
      PublishedIfLedgered slot (block.items slot) (∀ result, rest ≠ .done result)
        (calls.filterMap IntakeEvent.of?) ⟨before.foldl Tables.mark .empty, published⟩) ∧
    ∀ clients report calls rest, (Backfill.fetchSlot clients slot report).Reaches calls rest →
      let events := calls.filterMap IntakeEvent.of?
      PublishedIfLedgered slot ((events.filterMap IntakeEvent.received?).flatMap (·.items slot))
        (∀ result, rest ≠ .done result) events ⟨before.foldl Tables.mark .empty, published⟩ := by
  have wellLedgered := Tables.wellLedgered_empty.foldl_mark before
  constructor
  · intro block calls rest reaches
    rcases BlockStage.keeps_handleBlock.reaches reaches with ⟨last, leads, keeps⟩
    exact BlockStage.publishedIfLedgered_of_received wellLedgered unledgered keeps.ended leads
  · intro clients report calls rest reaches
    rcases BlockStage.keeps_fetchSlot.reaches reaches with ⟨last, leads, keeps⟩
    exact BlockStage.publishedIfLedgered_of_awaited wellLedgered unledgered keeps.ended leads

/-- A block with one transaction that does nothing. -/
def quietBlock : EncodedBlock :=
  ⟨some 1700000000,
    some [⟨.spelledOut ["quiet"] (.raw ["Trader"] []),
      some ⟨false, [10], [5], [], [], [], [], []⟩⟩]⟩

/-- Its only work item, in slot 2. -/
def quietItem : WorkItem :=
  ⟨2, 1700000000, [⟨"quiet", ["Trader"], [], [], [], [], [10], [5], [], []⟩]⟩

/-- The calls after the block has been received: it enters the ledger, and the queue is asked to
take its item. -/
def quietCalls (answer : Except Failure Unit) : List (AnsweredCall Services) :=
  [⟨.store (.markProcessed 2), some (.ok ())⟩, ⟨.queue (.publish quietItem), some answer⟩]

def brokerUnavailable : Failure := .queue "broker unavailable"

/-- The ledger around the block. -/
def aroundQuiet : Intake := ⟨[1, 3].foldl Tables.mark .empty, []⟩

theorem quietBlock_published_if_ledgered :
    ¬ aroundQuiet.Ledgered 2 ∧
      PublishedIfLedgered 2 [quietItem] (∀ result, (Program.done (.ok 1) :
        Program Services (Except Failure Nat)) ≠ .done result)
        [.marked 2 true, .published quietItem true] aroundQuiet := by
  refine ⟨by decide, ?_⟩
  refine (ledgered_blocks_published [1, 3] [] 2 (by decide)).1 quietBlock
    (quietCalls (.ok ()) ++ [⟨.shared (.noteProcessed 2), some ()⟩]) _ ?_
  refine @Program.Reaches.ask Services _ (.call (.store (.markProcessed 2))) _ _ _ (.ok ()) ?_
  refine @Program.Reaches.ask Services _ (.call (.queue (.publish quietItem))) _ _ _ (.ok ()) ?_
  exact @Program.Reaches.ask Services _ (.call (.shared (.noteProcessed 2))) _ _ _ () (.here _)

/-- When the item cannot be published, the block is in the ledger, has no item in the queue, and is
not found missing. -/
theorem quietBlock_ledgered_unpublished :
    let lost (calls : List (AnsweredCall Services)) : Prop :=
      let intake := (calls.filterMap IntakeEvent.of?).foldl Intake.after aroundQuiet
      intake.Ledgered 2 ∧ intake.published = [] ∧ 2 ∉ intake.tables.missing
    quietBlock.items 2 = [quietItem] ∧
      (∃ calls result, (Listener.handleBlock 2 quietBlock).Reaches calls (.done result) ∧
        lost calls) ∧
      ∃ calls result, (Backfill.fetchSlot 1 2 .zero).Reaches calls (.done result) ∧
        ⟨.node 0 (.block 2), some (.ok quietBlock)⟩ ∈ calls ∧ lost calls := by
  intro lost
  refine ⟨by decide,
    ⟨quietCalls (.error brokerUnavailable), .error brokerUnavailable, ?_, by decide, by decide,
      by decide⟩,
    ⟨.shared .takeTurn, some 0⟩ :: ⟨.node 0 (.block 2), some (.ok quietBlock)⟩ ::
      quietCalls (.error brokerUnavailable),
    ⟨1, 0, 0, 0⟩, ?_, by simp, by decide, by decide, by decide⟩
  · refine @Program.Reaches.ask Services _ (.call (.store (.markProcessed 2))) _ _ _ (.ok ()) ?_
    exact @Program.Reaches.ask Services _ (.call (.queue (.publish quietItem))) _ _ _
      (.error brokerUnavailable) (.here _)
  · refine @Program.Reaches.ask Services _ (.call (.shared .takeTurn)) _ _ _ 0 ?_
    refine @Program.Reaches.ask Services _ (.call (.node 0 (.block 2))) _ _ _ (.ok quietBlock) ?_
    refine @Program.Reaches.ask Services _ (.call (.store (.markProcessed 2))) _ _ _ (.ok ()) ?_
    refine @Program.Reaches.ask Services _ (.call (.queue (.publish quietItem))) _ _ _
      (.error brokerUnavailable) ?_
    exact @Program.Reaches.ask Services _ (.report _) _ _ _ () (.here _)

end SwapLedger
