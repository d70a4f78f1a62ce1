import SwapLedger.Proofs.Traffic

/-!
# Calls that nothing gets in the way of

What the calls of a queue in the database answer and do when the database answers them all and
nobody else calls in the meantime. Such calls are part of what can come about.
-/

namespace SwapLedger

open Program

variable {queue : TableQueue} {house : Warehouse} {client : Nat} {call : QueueCall}

namespace Warehouse

theorem completes_elsewhere (other : WireCall) (unlike : ∀ statement,
    other ≠ .database (.execute statement)) (answer : other.Answer) :
    (Program.call other : Program Wire _).Completes (Serves client call) house answer house :=
  completes_request.mpr (.elsewhere unlike)

theorem completes_query {statement : Statement}
    (room : ∀ queue payload, statement = .publish queue payload →
      house.tables.nextId ≤ Statement.greatestInteger) :
    (SwapStore.query statement).Completes (Serves client call) house
      (.ok (house.tables.apply house.now [] statement).1)
      (house.execute client call statement) := by
  let outcome : Except DatabaseFailure statement.Answer :=
    .ok (house.tables.apply house.now [] statement).1
  refine completes_bind.mpr ⟨.ok (), house, completes_elsewhere (.database .acquire) nofun _, ?_⟩
  refine completes_bind.mpr ⟨outcome, house.execute client call statement, ?_, ?_⟩
  · refine completes_request.mpr (.carriedOut ?_ room)
    intro result same
    exact (Except.ok.inj (Option.some.inj same)).symm
  · refine completes_bind.mpr ⟨(), _, ?_, rfl, rfl⟩
    exact completes_elsewhere (.database (.giveBack _)) nofun _

theorem completes_publish (item : WorkItem)
    (room : house.tables.nextId ≤ Statement.greatestInteger) :
    (queue.serve (.publish item)).Completes (Serves client call) house (.ok ())
      (house.execute client call (.publish queue.settings.name item.toPayload)) :=
  completes_bind.mpr ⟨_, _, completes_query fun _ _ _ => room, rfl, rfl⟩

/-- A row is claimed if there is credit. -/
theorem completes_consume {row : ClaimedRow}
    (claims : (house.tables.apply house.now [] queue.claimStatement).1 = some row) :
    (queue.serve .consume).Completes (Serves client call) house
      (.ok (some (TableQueue.delivery row))) (house.execute client call queue.claimStatement) := by
  refine completes_bind.mpr ⟨true, house, completes_elsewhere (.credits _) nofun _, ?_⟩
  have claimed : (SwapStore.query queue.claimStatement).Completes (Serves client call) house
      (.ok (some row)) (house.execute client call queue.claimStatement) := by
    rw [← claims]
    apply completes_query
    intro _ _ same
    cases same
  refine completes_bind.mpr ⟨_, _, claimed.unlessStopped, ?_⟩
  exact ⟨rfl, rfl⟩

theorem completes_giveBack {tag : Nat} :
    (queue.serve (.reject tag true)).Completes (Serves client call) house (.ok ())
      (house.execute client call (.release (Statement.integer tag))) := by
  refine completes_bind.mpr ⟨_, _, completes_query nofun, ?_⟩
  exact completes_bind.mpr ⟨(), _, completes_elsewhere (.credits _) nofun _, rfl, rfl⟩

end Warehouse

namespace Traffic

variable {queues : Nat → TableQueue} {traffic : Traffic}

theorem Reachable.pass (reachable : Reachable queues traffic) {instant : Nat}
    (later : traffic.house.now ≤ instant) :
    Reachable queues { traffic with house := { traffic.house with now := instant } } :=
  reachable.step (.pass later)

theorem Reachable.goesOn {begun : Nat} {answer : call.Answer} {program : Program Wire call.Answer}
    (reachable : Reachable queues traffic)
    (asks : traffic.pending client = some ⟨call, begun, program⟩)
    (completes : program.Completes (Warehouse.Serves client call) traffic.house answer house) :
    Reachable queues
      ⟨house, Function.update traffic.pending client (some ⟨call, begun, .done answer⟩)⟩ := by
  induction program generalizing traffic with
  | done result =>
      rcases completes with ⟨rfl, rfl⟩
      rwa [← asks, Function.update_eq_self]
  | ask request resume ih =>
      rcases completes with ⟨outcome, middle, answers, later⟩
      have next := reachable.step (.ask asks answers)
      have last := ih outcome next (Function.update_self _ _ _) later
      rwa [Function.update_idem] at last

/-- A client makes a call, and nobody else does anything until it has its answer. -/
theorem Reachable.answered (reachable : Reachable queues traffic) (client : Nat)
    {answer : call.Answer}
    (idle : traffic.pending client = none)
    (completes : ((queues client).serve call).Completes (Warehouse.Serves client call)
      traffic.house answer house) :
    Reachable queues
      ⟨house, Function.update traffic.pending client
        (some ⟨call, traffic.house.history.length, .done answer⟩)⟩ := by
  have last := (reachable.step (.call idle)).goesOn (Function.update_self _ _ _) completes
  rwa [Function.update_idem] at last

/-- Afterwards, the client turns to something else. -/
theorem Reachable.wholeCall (reachable : Reachable queues traffic) (client : Nat)
    {answer : call.Answer}
    (idle : traffic.pending client = none)
    (completes : ((queues client).serve call).Completes (Warehouse.Serves client call)
      traffic.house answer house) :
    Reachable queues { traffic with house := house } := by
  have last := (reachable.answered client idle completes).step (.leave client)
  rwa [Function.update_idem, ← idle, Function.update_eq_self] at last

end Traffic

section OneRow

variable (queue : TableQueue) (item : WorkItem)

/-- Nothing but one row, which has been claimed some times. -/
def Tables.oneRow (deliveries : Nat) (claimedUntil : Option Nat) : Tables :=
  { empty with
    work := [⟨1, queue.settings.name, item.toPayload, deliveries, claimedUntil⟩], nextId := 2 }

variable {queue item} {now deliveries client : Nat} {claimedUntil : Option Nat}
  {history : WorkHistory} {call : QueueCall}

theorem Tables.claim_oneRow (free : claimedUntil.all (· < now) = true) :
    (oneRow queue item deliveries claimedUntil).claim now queue.settings.name
        queue.settings.visibilityTimeoutSecs =
      (some ⟨1, item.toPayload, deliveries + 1⟩,
        oneRow queue item (deliveries + 1) (some (queue.deadline now))) := by
  simp [claim, oneRow, WorkRow.claimable, free, changeWork, WorkRow.claim, TableQueue.deadline]

theorem Warehouse.execute_claim_oneRow (free : claimedUntil.all (· < now) = true) :
    execute ⟨now, .oneRow queue item deliveries claimedUntil, history⟩ client call
        queue.claimStatement =
      ⟨now, .oneRow queue item (deliveries + 1) (some (queue.deadline now)),
        history ++ [⟨now, client, call, .claimed 1 (queue.deadline now)⟩]⟩ := by
  simp [execute, TableQueue.claimStatement, Tables.apply, Tables.workEvent?,
    Tables.claim_oneRow free, TableQueue.deadline]

/-- A client gets the row if nobody holds it. -/
theorem Warehouse.completes_consume_oneRow (free : claimedUntil.all (· < now) = true) :
    (queue.serve .consume).Completes (Serves client .consume)
      ⟨now, .oneRow queue item deliveries claimedUntil, history⟩
      (.ok (some (TableQueue.delivery ⟨1, item.toPayload, deliveries + 1⟩)))
      ⟨now, .oneRow queue item (deliveries + 1) (some (queue.deadline now)),
        history ++ [⟨now, client, .consume, .claimed 1 (queue.deadline now)⟩]⟩ := by
  rw [← execute_claim_oneRow free]
  apply completes_consume
  change (Tables.claim _ _ _ _).1 = _
  rw [Tables.claim_oneRow free]

/-- Whoever gives the row back, it can be claimed again. -/
theorem Warehouse.completes_giveBack_oneRow :
    (queue.serve (.reject 1 true)).Completes (Serves client (.reject 1 true))
      ⟨now, .oneRow queue item deliveries claimedUntil, history⟩ (.ok ())
      ⟨now, .oneRow queue item deliveries none,
        history ++ [⟨now, client, .reject 1 true, .givenBack 1⟩]⟩ :=
  completes_giveBack

variable (queue item)

/-- Client 0 has published a row and then claimed it. -/
def claimedOnce : WorkHistory :=
  [⟨0, 0, .publish item, .published 1 queue.settings.name item.toPayload⟩,
    ⟨0, 0, .consume, .claimed 1 (queue.deadline 0)⟩]

namespace Traffic

/-- Time goes by until the claim is over. -/
theorem reachable_overdue :
    Reachable (fun _ => queue)
      ⟨⟨queue.deadline 0 + 1, .oneRow queue item 1 (some (queue.deadline 0)),
        claimedOnce queue item⟩, fun _ => none⟩ := by
  have started : Reachable (fun _ => queue) ⟨⟨0, .empty, []⟩, fun _ => none⟩ :=
    .initial 0 .empty rfl rfl
  have published := started.wholeCall 0 rfl (Warehouse.completes_publish item (by decide))
  have claimed := published.wholeCall 0 rfl (Warehouse.completes_consume_oneRow rfl)
  exact claimed.pass (Nat.zero_le _)

end Traffic

end OneRow

end SwapLedger
