import Mathlib.Data.List.Perm.Subperm
import SwapLedger.Proofs.CallCompletions

/-!
# Deliveries from the database

However clients share a work queue in the database, a row that has been published stays there until
it is acknowledged or thrown away. A client gets rows of its own queue, always the first one that
nobody holds, and is told whether the row has been handed out before, even if nobody heard of it.
-/

namespace SwapLedger

namespace TableQueue

variable (queue : TableQueue)

/-- Whether a delivery was claimed for this queue, as the first of the rows that waited. -/
def Delivers (delivery : Delivery) (before : WorkHistory) (deed : WorkDeed) : Prop :=
  let name := queue.settings.name
  deed.event = .claimed delivery.tag (queue.deadline deed.instant) ∧
    before.Stored delivery.tag name delivery.payload ∧
    before.Waits deed.instant name delivery.tag ∧
    (∀ other, before.Waits deed.instant name other → delivery.tag ≤ other) ∧
    (delivery.redelivered = true ↔ 0 < before.claims delivery.tag)

/-- Whether the rows of this queue that waited were counted. -/
def Counts (depth : UInt64) (before : WorkHistory) (deed : WorkDeed) : Prop :=
  ∃ ids : List Nat, ids.Nodup ∧
    (∀ id, id ∈ ids ↔ before.Waits deed.instant queue.settings.name id) ∧
    ids.length = depth.toNat

/-- Whether the history shows, since a call was made, what the call answers. -/
def AnsweredBy (history : WorkHistory) (begun client : Nat) :
    (call : QueueCall) → call.Answer → Prop
  | .publish item, .ok () =>
    history.Shows begun client fun _ deed =>
      ∃ id, deed.event = .published id queue.settings.name item.toPayload
  | .consume, .ok (some delivery) => history.Shows begun client (queue.Delivers delivery)
  | .acknowledge tag, .ok () | .reject tag false, .ok () =>
    history.Shows begun client fun _ deed => deed.event = .removed (Statement.integer tag)
  | .reject tag true, .ok () =>
    history.Shows begun client fun _ deed => deed.event = .givenBack (Statement.integer tag)
  | .depth, .ok depth => history.Shows begun client (queue.Counts depth)
  | _, _ => True

end TableQueue

namespace WorkHistory

variable {now : Nat} {history before after : WorkHistory} {deed : WorkDeed} {tables : Tables}

theorem Regular.accords {queues : Nat → TableQueue} (regular : history.Regular queues)
    (split : history = before ++ deed :: after) : before.Accords queues deed :=
  (regular before deed after split).2

theorem Shows.imp {begun client : Nat} {tells told : WorkHistory → WorkDeed → Prop}
    (shows : history.Shows begun client tells)
    (implied : ∀ before deed after, history = before ++ deed :: after → deed.client = client →
      tells before deed → told before deed) : history.Shows begun client told := by
  rcases shows with ⟨before, deed, after, split, since, by_client, holds⟩
  exact ⟨before, deed, after, split, since, by_client,
    implied before deed after split by_client holds⟩

/-- There are not more ids than the database has. -/
theorem Recorded.length_le (recorded : Recorded now history tables) {ids : List Nat}
    (nodup : ids.Nodup) (published : ∀ id ∈ ids, ∃ deed ∈ history, deed.event.row? = some id) :
    ids.length ≤ Statement.greatestInteger + 1 := by
  have bounded : ids ⊆ List.range tables.nextId := by
    intro id member
    rcases published id member with ⟨deed, done, named⟩
    exact List.mem_range.mpr (recorded.row_lt deed done id named)
  calc
    ids.length ≤ (List.range tables.nextId).length :=
      (List.subperm_of_subset nodup bounded).length_le
    _ = tables.nextId := List.length_range
    _ ≤ Statement.greatestInteger + 1 := recorded.nextId_le

end WorkHistory

namespace Tables

variable {tables : Tables} {now : Nat} {queue : String} {timeoutSecs : UInt64}

/-- A claim leaves the rows of other queues as they are. -/
theorem mem_claim_of_foreign (ascending : tables.work.Pairwise (·.id < ·.id)) {row : WorkRow}
    (foreign : row.queue ≠ queue) :
    row ∈ (tables.claim now queue timeoutSecs).2.work ↔ row ∈ tables.work := by
  rcases claim_cases ascending with ⟨_, missed⟩ | ⟨first, member, claimable, _, claims⟩
  · rw [missed]
  · rw [WorkRow.claimable, Bool.and_eq_true, beq_iff_eq] at claimable
    rw [claims, mem_changeWork]
    constructor
    · rintro (⟨there, _⟩ | ⟨other, _, _, same⟩)
      · exact there
      · cases same
        exact absurd claimable.1 foreign
    · intro there
      refine .inl ⟨there, fun same => foreign ?_⟩
      rw [eq_of_id_eq ascending there member (by exact_mod_cast same)]
      exact claimable.1

end Tables

namespace Traffic

variable {queues : Nat → TableQueue} {traffic : Traffic}

theorem Sound.delivers (sound : traffic.Sound queues) {client begun : Nat} {row : ClaimedRow}
    (shown : Execution.ShownBy traffic.house.history begun client
      ⟨(queues client).claimStatement, some (.ok (some row))⟩) :
    traffic.house.history.Shows begun client
      ((queues client).Delivers (TableQueue.delivery row)) := by
  refine WorkHistory.Shows.imp shown ?_
  rintro before deed after split by_client ⟨⟨deadline, event⟩, stored, deliveries⟩
  have accords := sound.house.regular.accords split
  rw [WorkHistory.Accords, event, by_client] at accords
  rcases accords with ⟨_, waits, first, rfl⟩
  refine ⟨event, stored, waits, first, ?_⟩
  rw [TableQueue.delivery, deliveries, decide_eq_true_iff]
  exact Nat.lt_add_left_iff_pos

theorem Sound.counts (sound : traffic.Sound queues) {client begun rows : Nat}
    (shown : Execution.ShownBy traffic.house.history begun client
      ⟨.depth (queues client).settings.name, some (.ok rows)⟩) :
    traffic.house.history.Shows begun client ((queues client).Counts (.ofNat rows)) := by
  refine WorkHistory.Shows.imp shown ?_
  intro before deed after split by_client event
  have accords := sound.house.regular.accords split
  rw [WorkHistory.Accords, event, by_client] at accords
  rcases accords with ⟨_, ids, nodup, waits, rfl⟩
  refine ⟨ids, nodup, waits, (UInt64.toNat_ofNat_of_lt ?_).symm⟩
  have bounded := sound.house.recorded.length_le nodup fun id member => by
    rcases ((waits id).mp member).1 with ⟨payload, stored⟩
    rcases stored.exists_mem with ⟨published, earlier, event⟩
    refine ⟨published, ?_, by simp [event]⟩
    rw [split]
    exact List.mem_append_left _ earlier
  exact Nat.lt_of_le_of_lt bounded (by decide)

/-- What a call answers is what the history shows. -/
theorem Sound.answeredBy (sound : traffic.Sound queues) {client begun : Nat} {call : QueueCall}
    {answer : call.Answer} (answers : traffic.pending client = some ⟨call, begun, .done answer⟩) :
    (queues client).AnsweredBy traffic.house.history begun client call answer := by
  rcases sound.calls client _ answers with ⟨_, _, executed, reports, shown⟩
  change (queues client).Reports call answer executed at reports
  cases call with
  | publish item =>
      rcases answer with _ | ⟨⟩
      · trivial
      · cases reports
        exact shown _ (List.mem_singleton_self _)
  | consume =>
      rcases answer with _ | _ | delivery
      · trivial
      · trivial
      · rcases reports with ⟨row, rfl, rfl⟩
        exact sound.delivers (shown _ (List.mem_singleton_self _))
  | acknowledge tag =>
      rcases answer with _ | ⟨⟩
      · trivial
      · cases reports
        exact shown _ (List.mem_singleton_self _)
  | reject tag requeue =>
      rcases answer with _ | ⟨⟩
      · cases requeue <;> trivial
      · cases requeue <;> cases reports <;> exact shown _ (List.mem_singleton_self _)
  | depth =>
      rcases answer with _ | depth
      · trivial
      · rcases reports with ⟨rows, rfl, rfl⟩
        exact sound.counts (shown _ (List.mem_singleton_self _))
  | createTables | setPrefetch | reconnect => trivial

/-- A request of a client that publishes or consumes leaves the rows of other queues as they are. -/
theorem Sound.mem_of_foreign (sound : traffic.Sound queues) {client : Nat} {call : QueueCall}
    (adds : call = .consume ∨ ∃ item, call = .publish item) {house : Warehouse}
    (continues : traffic.house.Continues (queues client) client call house) {row : WorkRow}
    (foreign : row.queue ≠ (queues client).settings.name) :
    row ∈ house.tables.work ↔ row ∈ traffic.house.tables.work := by
  rcases continues with rfl | ⟨statement, listed, rfl⟩
  · rfl
  · rcases adds with rfl | ⟨item, rfl⟩
    · cases List.mem_singleton.mp listed
      exact Tables.mem_claim_of_foreign sound.house.recorded.ascending foreign
    · cases List.mem_singleton.mp listed
      simp only [Warehouse.execute, Tables.apply, List.mem_append, List.mem_singleton]
      refine or_iff_left ?_
      rintro rfl
      exact foreign rfl

/-- A row whose claim is over goes to another client, and is marked. -/
theorem reachable_redelivered (queue : TableQueue) (item : WorkItem) :
    Reachable (fun _ => queue)
      ⟨⟨queue.deadline 0 + 1,
        .oneRow queue item 2 (some (queue.deadline (queue.deadline 0 + 1))),
        claimedOnce queue item ++ [⟨queue.deadline 0 + 1, 1, .consume,
          .claimed 1 (queue.deadline (queue.deadline 0 + 1))⟩]⟩,
        Function.update (fun _ => none) 1
          (some ⟨.consume, 2, .done (.ok (some ⟨1, item.toPayload, true⟩))⟩)⟩ := by
  apply (reachable_overdue queue item).answered 1 rfl
  apply Warehouse.completes_consume_oneRow
  simp

/-- How rows are delivered to the clients of several queues. -/
structure Delivers (queues : Nat → TableQueue) (traffic : Traffic) : Prop where
  /-- Everything has been done in order: rows have been published by calls for their queue, claimed
  as the first that waited in the client's own queue, and removed for their ids only. -/
  regular : traffic.house.history.Regular queues
  /-- A row is there until it is removed, as it was published. -/
  stored_iff : ∀ id queue payload, traffic.house.history.Stored id queue payload ↔
    ∃ row ∈ traffic.house.tables.work, row.id = id ∧ row.queue = queue ∧ row.payload = payload
  waits_iff : ∀ queue id, traffic.house.history.Waits traffic.house.now queue id ↔
    ∃ row ∈ traffic.house.tables.work, row.id = id ∧
      row.claimable traffic.house.now queue = true
  /-- What a call answers has been done. -/
  answered : ∀ client call begun (answer : call.Answer),
    traffic.pending client = some ⟨call, begun, .done answer⟩ →
      (queues client).AnsweredBy traffic.house.history begun client call answer
  /-- To publish or to consume changes no row of another queue. -/
  foreign : ∀ client call begun (request : Request Wire)
    (resume : request.Answer → Program Wire call.Answer) (answer : request.Answer) house,
    call = .consume ∨ (∃ item, call = .publish item) →
    traffic.pending client = some ⟨call, begun, .ask request resume⟩ →
    (Warehouse.Serves client call).Answers traffic.house (request.answeredCall? answer) house →
    ∀ row, row.queue ≠ (queues client).settings.name →
      (row ∈ house.tables.work ↔ row ∈ traffic.house.tables.work)

/-- Rows are delivered at least once, and queues are kept apart. -/
theorem atLeastOnce_apart (reachable : Reachable queues traffic) : traffic.Delivers queues := by
  have sound := sound_of_reachable reachable
  constructor
  case regular => exact sound.house.regular
  case stored_iff => exact sound.house.recorded.stored_iff
  case waits_iff => exact fun queue id => sound.house.recorded.waits_iff
  case answered => exact fun client call begun answer answers => sound.answeredBy answers
  case foreign =>
    intro client call begun request resume answer house adds asks answers row foreign
    exact sound.mem_of_foreign adds (sound.ask asks answers).2.1 foreign

/-- Client 1 is told that client 0 has held the row before. -/
theorem atLeastOnce_redelivered :
    let queue : TableQueue := ⟨0, .standard⟩
    let item : WorkItem := ⟨1, 0, []⟩
    let now := queue.deadline 0 + 1
    WorkHistory.Shows
      (claimedOnce queue item ++ [⟨now, 1, .consume, .claimed 1 (queue.deadline now)⟩]) 2 1
      (queue.Delivers ⟨1, item.toPayload, true⟩) :=
  (atLeastOnce_apart (reachable_redelivered _ _)).answered 1 .consume 2 _ rfl

end Traffic

end SwapLedger
