import Mathlib.Logic.Function.Basic
import SwapLedger.Proofs.Servants
import SwapLedger.Proofs.TableCalls
import SwapLedger.Proofs.WorkRows

/-!
# Clients that share a work queue in the database

Any number of clients call queues that keep their rows in one table. The requests of their calls are
answered one at a time and in any order; a statement that is carried out takes effect at once, but
the client need not hear of it, and it may give up a call at any time, as it does when its process
ends. In the meantime time passes. Whatever happens, the rows stay as the history tells, everything
in the history is in order, and a call that succeeds tells what is in the history.
-/

namespace SwapLedger

/-- The tables at an instant, and what has been done to the work queue. -/
structure Warehouse where
  now : Nat
  tables : Tables
  history : WorkHistory

namespace Warehouse

variable (house : Warehouse)

/-- A client has a statement carried out in the course of a call. -/
def execute (client : Nat) (call : QueueCall) (statement : Statement) : Warehouse :=
  { house with
    tables := (house.tables.apply house.now [] statement).2.1,
    history := house.history ++
      ((house.tables.workEvent? house.now statement).map (⟨house.now, client, call, ·⟩)).toList }

/-- How a client's calls are answered, and what they do. The numbers for new rows are limited. -/
inductive Serves (client : Nat) (call : QueueCall) : Servant Wire Warehouse where
  | carriedOut {house : Warehouse} {statement : Statement}
      {answer : Option (Except DatabaseFailure statement.Answer)}
      (truthful : ∀ result, answer = some (.ok result) →
        result = (house.tables.apply house.now [] statement).1)
      (room : ∀ queue payload, statement = .publish queue payload →
        house.tables.nextId ≤ Statement.greatestInteger) :
      Serves client call house ⟨.database (.execute statement), answer⟩
        (house.execute client call statement)
  | failed {house : Warehouse} {statement : Statement}
      {answer : Option (Except DatabaseFailure statement.Answer)}
      (unsuccessful : ∀ result, answer ≠ some (.ok result)) :
      Serves client call house ⟨.database (.execute statement), answer⟩ house
  /-- Nothing else concerns the tables. -/
  | elsewhere {house : Warehouse} {other : WireCall} {answer : Option other.Answer}
      (unlike : ∀ statement, other ≠ .database (.execute statement)) :
      Serves client call house ⟨other, answer⟩ house

end Warehouse

/-- A call on which a client is. -/
structure PendingCall where
  call : QueueCall
  /-- How much had been done to the work queue when the call was made. -/
  begun : Nat
  program : Program Wire call.Answer

/-- What clients share, and the calls on which they are. -/
structure Traffic where
  house : Warehouse
  pending : Nat → Option PendingCall

namespace Traffic

/-- One thing that happens. -/
inductive Step (queues : Nat → TableQueue) (traffic : Traffic) : Traffic → Prop where
  | pass {instant : Nat} (later : traffic.house.now ≤ instant) :
      Step queues traffic { traffic with house := { traffic.house with now := instant } }
  | call {client : Nat} {call : QueueCall} (idle : traffic.pending client = none) :
      Step queues traffic
        { traffic with
          pending := Function.update traffic.pending client
            (some ⟨call, traffic.house.history.length, (queues client).serve call⟩) }
  | ask {client begun : Nat} {call : QueueCall} {request : Request Wire}
      {resume : request.Answer → Program Wire call.Answer} {answer : request.Answer}
      {next : Warehouse} (asks : traffic.pending client = some ⟨call, begun, .ask request resume⟩)
      (answers : (Warehouse.Serves client call).Answers traffic.house
        (request.answeredCall? answer) next) :
      Step queues traffic
        ⟨next, Function.update traffic.pending client (some ⟨call, begun, resume answer⟩)⟩
  /-- A call has come to an end, or is given up. -/
  | leave (client : Nat) :
      Step queues traffic { traffic with pending := Function.update traffic.pending client none }

/-- What can come about when the work queue is empty at first. -/
inductive Reachable (queues : Nat → TableQueue) : Traffic → Prop where
  | initial (now : Nat) (tables : Tables) (noRows : tables.work = [])
      (nextId_eq : tables.nextId = 1) : Reachable queues ⟨⟨now, tables, []⟩, fun _ => none⟩
  | step {before after : Traffic} (reachable : Reachable queues before)
      (step : Step queues before after) : Reachable queues after

end Traffic

/-- Whether something has been done by a client since an instant of the history. -/
def WorkHistory.Shows (history : WorkHistory) (begun client : Nat)
    (tells : WorkHistory → WorkDeed → Prop) : Prop :=
  ∃ before deed after, history = before ++ deed :: after ∧ begun ≤ before.length ∧
    deed.client = client ∧ tells before deed

theorem WorkHistory.Shows.append {history : WorkHistory} {begun client : Nat}
    {tells : WorkHistory → WorkDeed → Prop} (shows : history.Shows begun client tells)
    (new : WorkHistory) : (history ++ new : WorkHistory).Shows begun client tells := by
  rcases shows with ⟨before, deed, after, rfl, since, by_client, told⟩
  exact ⟨before, deed, after ++ new, by simp, since, by_client, told⟩

namespace Execution

/-- What the history shows of a statement that succeeded. -/
def ShownBy (history : WorkHistory) (begun client : Nat) : Execution → Prop
  | ⟨.publish queue payload, some (.ok ())⟩ =>
    history.Shows begun client fun _ deed => ∃ id, deed.event = .published id queue payload
  | ⟨.claim queue _, some (.ok (some row))⟩ =>
    history.Shows begun client fun before deed =>
      (∃ deadline, deed.event = .claimed row.id deadline) ∧
        before.Stored row.id queue row.payload ∧ row.deliveries = before.claims row.id + 1
  | ⟨.release id, some (.ok ())⟩ =>
    history.Shows begun client fun _ deed => deed.event = .givenBack id
  | ⟨.remove id, some (.ok ())⟩ =>
    history.Shows begun client fun _ deed => deed.event = .removed id
  | ⟨.depth _, some (.ok rows)⟩ =>
    history.Shows begun client fun _ deed => deed.event = .counted rows
  | _ => True

variable {history : WorkHistory} {begun client : Nat} {execution : Execution}

theorem ShownBy.append (shown : execution.ShownBy history begun client) (new : WorkHistory) :
    execution.ShownBy (history ++ new) begun client := by
  unfold ShownBy at shown ⊢
  split at shown
  · exact shown.append new
  · exact shown.append new
  · exact shown.append new
  · exact shown.append new
  · exact shown.append new
  · trivial

/-- A statement that was not carried out needs no deed to account for its answer. -/
theorem shownBy_of_failed {statement : Statement}
    {answer : Option (Except DatabaseFailure statement.Answer)}
    (unsuccessful : ∀ result, answer ≠ some (.ok result)) :
    ShownBy history begun client ⟨statement, answer⟩ := by
  rcases answer with _ | _ | result
  · cases statement <;> trivial
  · cases statement <;> trivial
  · exact absurd rfl (unsuccessful result)

end Execution

namespace WorkHistory.Recorded

variable {now client : Nat} {history : WorkHistory} {tables : Tables}

/-- What a statement of a call does is in order. -/
theorem accords (recorded : Recorded now history tables) {queues : Nat → TableQueue}
    {call : QueueCall} {statement : Statement} {event : WorkEvent}
    (listed : statement ∈ (queues client).statements call)
    (does : tables.workEvent? now statement = some event) :
    history.Accords queues ⟨now, client, call, event⟩ := by
  cases call with
  | createTables =>
      rcases List.mem_pair.mp listed with rfl | rfl <;> cases does
  | publish item =>
      cases List.mem_singleton.mp listed
      cases does
      refine ⟨⟨item, rfl, rfl⟩, rfl, ?_⟩
      intro earlier member other named
      exact recorded.row_lt earlier member other named
  | consume =>
      cases List.mem_singleton.mp listed
      rw [TableQueue.claimStatement, Tables.workEvent?] at does
      rcases Tables.claim_cases recorded.ascending with
        ⟨none, missed⟩ | ⟨row, member, free, first, claims⟩
      · rw [missed] at does
        cases does
        refine ⟨rfl, fun id waits => ?_⟩
        rcases recorded.waits_iff.mp waits with ⟨row, member, _, free⟩
        simp [none row member] at free
      · rw [claims] at does
        cases does
        refine ⟨rfl, recorded.waits_iff.mpr ⟨row, member, rfl, free⟩, ?_, rfl⟩
        intro other waits
        rcases recorded.waits_iff.mp waits with ⟨row', member', rfl, free'⟩
        exact first row' member' free'
  | acknowledge tag =>
      cases List.mem_singleton.mp listed
      cases does
      exact ⟨tag, .inl rfl, rfl⟩
  | reject tag requeue =>
      cases requeue with
      | true =>
          cases List.mem_singleton.mp listed
          cases does
          exact ⟨tag, rfl, rfl⟩
      | false =>
          cases List.mem_singleton.mp listed
          cases does
          exact ⟨tag, .inr rfl, rfl⟩
  | depth =>
      cases List.mem_singleton.mp listed
      cases does
      let free := tables.work.filter fun row => row.claimable now (queues client).settings.name
      refine ⟨rfl, free.map (·.id), ?_, ?_, List.length_map _⟩
      · rw [List.Nodup, List.pairwise_map]
        exact (recorded.ascending.filter _).imp Nat.ne_of_lt
      · intro id
        rw [List.mem_map, recorded.waits_iff]
        refine exists_congr fun row => ?_
        rw [List.mem_filter, and_right_comm, and_assoc]
  | setPrefetch limit => cases listed
  | reconnect =>
      cases List.mem_singleton.mp listed
      cases does

/-- A statement that succeeds answers what the history shows from then on. -/
theorem shownBy (recorded : Recorded now history tables) {begun : Nat} {call : QueueCall}
    {statement : Statement} {answer : Option (Except DatabaseFailure statement.Answer)}
    (truthful : ∀ result, answer = some (.ok result) →
      result = (tables.apply now [] statement).1) (since : begun ≤ history.length) :
    Execution.ShownBy (history ++
      ((tables.workEvent? now statement).map (⟨now, client, call, ·⟩)).toList) begun client
      ⟨statement, answer⟩ := by
  cases statement with
  | publish queue payload =>
      rcases answer with _ | _ | ⟨⟩
      · trivial
      · trivial
      · exact ⟨history, _, [], rfl, since, rfl, tables.nextId, rfl⟩
  | claim queue timeoutSecs =>
      rcases answer with _ | _ | _ | row
      · trivial
      · trivial
      · trivial
      · have claimed : some row = (tables.claim now queue timeoutSecs).1 := truthful _ rfl
        rcases Tables.claim_cases recorded.ascending with
          ⟨_, missed⟩ | ⟨first, member, free, _, claims⟩
        · rw [missed] at claimed
          cases claimed
        · rw [claims] at claimed
          cases claimed
          rw [Tables.workEvent?, claims]
          refine ⟨history, _, [], rfl, since, rfl, ⟨_, rfl⟩, ?_, ?_⟩
          · apply (recorded.stored_iff _ _ _).mpr
            rw [WorkRow.claimable, Bool.and_eq_true, beq_iff_eq] at free
            exact ⟨first, member, rfl, free.1, rfl⟩
          · rw [recorded.deliveries_eq first member]
  | release id =>
      rcases answer with _ | _ | ⟨⟩
      · trivial
      · trivial
      · exact ⟨history, _, [], rfl, since, rfl, rfl⟩
  | remove id =>
      rcases answer with _ | _ | ⟨⟩
      · trivial
      · trivial
      · exact ⟨history, _, [], rfl, since, rfl, rfl⟩
  | depth queue =>
      rcases answer with _ | _ | rows
      · trivial
      · trivial
      · have counted := truthful rows rfl
        refine ⟨history, _, [], rfl, since, rfl, ?_⟩
        rw [counted]
        rfl
  | _ => trivial

end WorkHistory.Recorded

namespace Warehouse

variable {queues : Nat → TableQueue} {house : Warehouse} {client : Nat} {call : QueueCall}

/-- Whether the rows are as the history tells, and the history is in order. -/
structure Sound (queues : Nat → TableQueue) (house : Warehouse) : Prop where
  recorded : WorkHistory.Recorded house.now house.history house.tables
  timely : ∀ deed ∈ house.history, deed.instant ≤ house.now
  regular : house.history.Regular queues

theorem Sound.pass (sound : house.Sound queues) {instant : Nat} (later : house.now ≤ instant) :
    Sound queues { house with now := instant } where
  recorded := sound.recorded.later later
  timely deed member := Nat.le_trans (sound.timely deed member) later
  regular := sound.regular

/-- A statement adds to the history nothing but deeds of its own client and call. -/
theorem execute_history (house : Warehouse) (client : Nat) (call : QueueCall)
    (statement : Statement) :
    ∃ new : WorkHistory, (house.execute client call statement).history = house.history ++ new ∧
      ∀ deed ∈ new, deed.client = client ∧ deed.call = call := by
  refine ⟨_, rfl, ?_⟩
  intro deed member
  simp only [Option.mem_toList, Option.map_eq_some_iff] at member
  rcases member with ⟨event, _, rfl⟩
  exact ⟨rfl, rfl⟩

/-- Whether nothing has been done, or a statement of a call. -/
def Continues (house : Warehouse) (queue : TableQueue) (client : Nat) (call : QueueCall)
    (next : Warehouse) : Prop :=
  next = house ∨
    ∃ statement ∈ queue.statements call, next = house.execute client call statement

theorem Continues.history {queue : TableQueue} {next : Warehouse}
    (continues : house.Continues queue client call next) :
    ∃ new : WorkHistory, next.history = house.history ++ new ∧
      ∀ deed ∈ new, deed.client = client ∧ deed.call = call := by
  rcases continues with rfl | ⟨statement, _, rfl⟩
  · exact ⟨[], (List.append_nil _).symm, nofun⟩
  · exact house.execute_history client call statement

/-- Statements of a queue keep the traffic sound, as long as there is room for the ids of published
rows. -/
theorem Sound.execute (sound : house.Sound queues) {statement : Statement}
    (listed : statement ∈ (queues client).statements call)
    (room : ∀ queue payload, statement = .publish queue payload →
      house.tables.nextId ≤ Statement.greatestInteger) :
    (house.execute client call statement).Sound queues := by
  rw [Warehouse.execute]
  cases does : house.tables.workEvent? house.now statement with
  | none =>
      rw [Option.map_none, Option.toList_none, List.append_nil]
      exact ⟨sound.recorded.apply_of_none does, sound.timely, sound.regular⟩
  | some event =>
      rw [Option.map_some, Option.toList_some]
      refine ⟨sound.recorded.apply does room, ?_, ?_⟩
      · intro deed member
        rcases List.mem_append.mp member with earlier | newest
        · exact sound.timely deed earlier
        · cases List.mem_singleton.mp newest
          exact Nat.le_refl _
      · apply WorkHistory.regular_concat.mpr
        exact ⟨sound.regular, sound.timely, sound.recorded.accords listed does⟩

end Warehouse

/-- Whether a call goes on as it should: it has only had its own statements executed, and what it
has been told is what the history shows. -/
structure PendingCall.Sound (queue : TableQueue) (history : WorkHistory) (client : Nat)
    (pending : PendingCall) : Prop where
  begun_le : pending.begun ≤ history.length
  same_call : ∀ deed ∈ history.drop pending.begun, deed.client = client → deed.call = pending.call
  told : ∃ executed : List Execution,
    pending.program.Keeps (queue.executes pending.call) (queue.Reports pending.call) executed ∧
      ∀ execution ∈ executed, execution.ShownBy history pending.begun client

theorem PendingCall.Sound.append {queue : TableQueue} {history : WorkHistory} {client : Nat}
    {pending : PendingCall} (sound : pending.Sound queue history client) (new : WorkHistory)
    (own : ∀ deed ∈ new, deed.client = client → deed.call = pending.call) :
    pending.Sound queue (history ++ new) client := by
  rcases sound with ⟨begun_le, same_call, executed, keeps, shown⟩
  refine ⟨?_, ?_, executed, keeps, fun execution member => (shown execution member).append new⟩
  · rw [List.length_append]
    omega
  · intro deed member
    rw [List.drop_append_of_le_length begun_le] at member
    rcases List.mem_append.mp member with earlier | newest
    · exact same_call deed earlier
    · exact own deed newest

namespace Traffic

variable {queues : Nat → TableQueue} {traffic next : Traffic}

/-- What holds of all that can come about. -/
structure Sound (queues : Nat → TableQueue) (traffic : Traffic) : Prop where
  house : traffic.house.Sound queues
  calls : ∀ client pending, traffic.pending client = some pending →
    pending.Sound (queues client) traffic.house.history client

theorem sound_initial {now : Nat} {tables : Tables} (noRows : tables.work = [])
    (nextId_eq : tables.nextId = 1) :
    Sound queues ⟨⟨now, tables, []⟩, fun _ => none⟩ := by
  refine ⟨⟨.initial now noRows nextId_eq, nofun, ?_⟩, nofun⟩
  intro before deed after split
  simp at split

/-- A request of a client leaves the tables as they are, or has one of its statements executed. In
the former case it is enough that what the call reports has been shown. -/
theorem Sound.ask (sound : traffic.Sound queues) {client begun : Nat} {call : QueueCall}
    {request : Request Wire} {resume : request.Answer → Program Wire call.Answer}
    {answer : request.Answer} {house : Warehouse}
    (asks : traffic.pending client = some ⟨call, begun, .ask request resume⟩)
    (answers : (Warehouse.Serves client call).Answers traffic.house
      (request.answeredCall? answer) house) :
    house.Sound queues ∧ traffic.house.Continues (queues client) client call house ∧
      PendingCall.Sound (queues client) house.history client ⟨call, begun, resume answer⟩ := by
  rcases sound.calls client _ asks with ⟨begun_le, same_call, executed, keeps, shown⟩
  rcases keeps answer with ⟨reached, passes, keeps⟩
  have unchanged (told : ∀ execution ∈ reached,
      execution.ShownBy traffic.house.history begun client) :
      traffic.house.Sound queues ∧
        traffic.house.Continues (queues client) client call traffic.house ∧
        PendingCall.Sound (queues client) traffic.house.history client
          ⟨call, begun, resume answer⟩ :=
    ⟨sound.house, .inl rfl, begun_le, same_call, reached, keeps, told⟩
  cases seen : request.answeredCall? answer with
  | none =>
      rw [seen] at answers passes
      cases answers
      cases passes
      exact unchanged shown
  | some answered =>
      rw [seen] at answers passes
      cases answers with
      | elsewhere unlike =>
          simp only [Discipline.Passes, Option.bind_some, TableQueue.executes,
            Execution.of?_of_unlike unlike] at passes
          cases passes
          exact unchanged shown
      | failed unsuccessful =>
          rcases passes with ⟨rfl, _⟩
          apply unchanged
          intro execution member
          rcases List.mem_append.mp member with earlier | newest
          · exact shown execution earlier
          · rw [List.mem_singleton.mp newest]
            exact Execution.shownBy_of_failed unsuccessful
      | @carriedOut _ statement _ truthful room =>
          rcases passes with ⟨rfl, allowed⟩
          have listed : statement ∈ (queues client).statements call := by
            apply allowed.subset
            simp
          refine ⟨sound.house.execute listed room, .inr ⟨statement, listed, rfl⟩, ?_⟩
          rcases traffic.house.execute_history client call statement with ⟨new, grown, own⟩
          rw [grown]
          have before := (sound.calls client _ asks).append new
            fun deed member _ => (own deed member).2
          refine ⟨before.begun_le, before.same_call, _, keeps, ?_⟩
          intro execution member
          rcases List.mem_append.mp member with earlier | newest
          · exact (shown execution earlier).append new
          · rw [List.mem_singleton.mp newest, ← grown]
            exact sound.house.recorded.shownBy truthful begun_le

/-- Whether all calls are as they should be, after a client has gone on to another call, or on with
its call, while the others have not. -/
theorem forall_update {holds : Nat → PendingCall → Prop} {pending : Nat → Option PendingCall}
    {client : Nat} {new : Option PendingCall}
    (others : ∀ other ≠ client, ∀ call, pending other = some call → holds other call)
    (own : ∀ call, new = some call → holds client call) (other : Nat) (call : PendingCall)
    (found : Function.update pending client new other = some call) : holds other call := by
  by_cases same : other = client
  · subst same
    rw [Function.update_self] at found
    exact own call found
  · rw [Function.update_of_ne same] at found
    exact others other same call found

/-- Every step keeps the traffic sound. -/
theorem Sound.step (sound : traffic.Sound queues) (step : Step queues traffic next) :
    next.Sound queues := by
  cases step with
  | pass later => exact ⟨sound.house.pass later, sound.calls⟩
  | @call client call idle =>
      refine ⟨sound.house, forall_update (fun other _ => sound.calls other) ?_⟩
      rintro _ ⟨⟩
      refine ⟨Nat.le_refl _, ?_, [], TableQueue.keeps_serve _ call, nofun⟩
      simp
  | @ask client begun call request resume answer house asks answers =>
      rcases sound.ask asks answers with ⟨sane, continues, attended⟩
      rcases continues.history with ⟨new, grown, own⟩
      refine ⟨sane, forall_update ?_ ?_⟩
      · intro other apart pending found
        change pending.Sound (queues other) house.history other
        rw [grown]
        apply (sound.calls other pending found).append new
        intro deed member by_other
        exact absurd (by_other.symm.trans (own deed member).1) apart
      · rintro _ ⟨⟩
        exact attended
  | leave =>
      exact ⟨sound.house, forall_update (fun other _ => sound.calls other) nofun⟩

/-- So it is sound whenever it can be reached. -/
theorem sound_of_reachable (reachable : Reachable queues traffic) : traffic.Sound queues := by
  induction reachable with
  | initial now tables noRows nextId_eq => exact sound_initial noRows nextId_eq
  | step reachable step ih => exact ih.step step

end Traffic

end SwapLedger
