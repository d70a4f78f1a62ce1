import Mathlib.Logic.Function.Basic
import SwapLedger.Proofs.Custody
import SwapLedger.Proofs.QueueOperations
import SwapLedger.Tables

/-!
# Workers that share a queue and a store

Any number of workers, whose requests are answered one at a time and in any order, while others
publish to the queue and break its connection. A store answers with a failure whenever it likes; an
insertion that a worker gives up may still have been carried out. Besides the queue and the rows, it
is remembered what has been acknowledged, what each worker has taken last, and of which transactions
rows were removed by a worker whose delivery the queue had taken back in the meantime.
-/

namespace SwapLedger

/-- What the transactions are of which items tell, and when they were made, by their signatures. -/
abbrev Catalogue := String → Transaction × Timestamp × Slot

/-- Whether an item tells of each of its transactions what the catalogue says. -/
def Catalogue.Describes (catalogue : Catalogue) (payload : String) : Prop :=
  ∀ item, WorkItem.ofPayload? payload = some item → ∀ transaction ∈ item.transactions,
    catalogue transaction.signature = (transaction, item.blockTime, item.blockNumber)

/-- Workers that look for swaps in the same way. -/
structure Crew where
  registry : Registry
  worker : Nat → Worker
  registry_eq : ∀ number, (worker number).registry = registry

/-- What workers share, and what is remembered of it. -/
structure Workshop where
  queue : MemoryQueue
  rows : List SwapRecord
  /-- The payloads that have been acknowledged. -/
  acknowledged : List String
  /-- What each worker has taken last. -/
  taken : Nat → Option Delivery
  /-- The signatures of which rows were removed by a worker that no longer held its delivery. -/
  strayed : List String

namespace Workshop

/-- Nothing has been done yet. -/
def initial (prefetch : UInt16) : Workshop := ⟨.empty prefetch, [], [], fun _ => none, []⟩

variable (shop : Workshop)

/-- Whether the queue still holds what a worker has taken last. -/
def Holds (number : Nat) : Prop :=
  ∃ delivery, shop.taken number = some delivery ∧ delivery.tag ∈ shop.queue.held.map Prod.fst

instance (number : Nat) : Decidable (shop.Holds number) :=
  decidable_of_iff ((shop.taken number).any fun delivery =>
    decide (delivery.tag ∈ shop.queue.held.map Prod.fst)) (by
      rw [Option.any_eq_true]
      simp [Holds])

/-- The payloads that are in the queue, waiting or held. -/
def queued : List String :=
  shop.queue.ready.map (·.payload) ++ shop.queue.held.map (·.2.payload)

def withQueue (queue : MemoryQueue) : Workshop := { shop with queue }

/-- A worker takes a delivery. -/
def take (number : Nat) (delivery : Delivery) (queue : MemoryQueue) : Workshop :=
  { shop with queue, taken := Function.update shop.taken number (some delivery) }

/-- A delivery is acknowledged. -/
def acknowledge (tag : Nat) (queue : MemoryQueue) : Workshop :=
  { shop with queue, acknowledged := shop.acknowledged ++ (shop.queue.heldUnder? tag).toList }

/-- Swaps are stored, except for those that conflict with a row. -/
def store (swaps : List SwapRecord) : Workshop :=
  { shop with rows := swaps.foldl Tables.insertSwap shop.rows }

/-- A worker removes the rows of a transaction. -/
def clear (number : Nat) (signature : String) : Workshop :=
  { shop with
    rows := shop.rows.filter (·.id != signature),
    strayed := if shop.Holds number then shop.strayed else shop.strayed ++ [signature] }

/-- How a call of a worker is answered, and what it does. -/
inductive Serves (number : Nat) : AnsweredCall Services → Workshop → Prop where
  | delivered {delivery : Delivery} {queue : MemoryQueue}
      (consumed : shop.queue.consume? = some (.ok delivery, queue)) :
      Serves number ⟨.queue .consume, some (.ok (some delivery))⟩ (shop.take number delivery queue)
  | nothing : Serves number ⟨.queue .consume, some (.ok none)⟩ shop
  | closed {failure : Failure} {queue : MemoryQueue}
      (consumed : shop.queue.consume? = some (.error failure, queue)) :
      Serves number ⟨.queue .consume, some (.error failure)⟩ shop
  | acknowledged {tag : Nat} {queue : MemoryQueue}
      (settled : shop.queue.acknowledge tag = .ok queue) :
      Serves number ⟨.queue (.acknowledge tag), some (.ok ())⟩ (shop.acknowledge tag queue)
  | notAcknowledged {tag : Nat} {failure : Failure}
      (refused : shop.queue.acknowledge tag = .error failure) :
      Serves number ⟨.queue (.acknowledge tag), some (.error failure)⟩ shop
  | rejected {tag : Nat} {requeue : Bool} {queue : MemoryQueue}
      (settled : shop.queue.reject tag requeue = .ok queue) :
      Serves number ⟨.queue (.reject tag requeue), some (.ok ())⟩ (shop.withQueue queue)
  | notRejected {tag : Nat} {requeue : Bool} {failure : Failure}
      (refused : shop.queue.reject tag requeue = .error failure) :
      Serves number ⟨.queue (.reject tag requeue), some (.error failure)⟩ shop
  | reconnected {answer : Option (Except Failure Unit)}
      (possible : answer = some (.ok ()) ∨ answer = none) :
      Serves number ⟨.queue .reconnect, answer⟩ (shop.withQueue shop.queue.reopen)
  | notReconnected {answer : Option (Except Failure Unit)} (possible : answer ≠ some (.ok ())) :
      Serves number ⟨.queue .reconnect, answer⟩ shop
  | stored {swaps : List SwapRecord} {answer : Option (Except Failure Unit)}
      (possible : answer = some (.ok ()) ∨ answer = none) :
      Serves number ⟨.store (.insertSwaps swaps), answer⟩ (shop.store swaps)
  | notStored {swaps : List SwapRecord} {answer : Option (Except Failure Unit)}
      (possible : answer ≠ some (.ok ())) : Serves number ⟨.store (.insertSwaps swaps), answer⟩ shop
  | cleared {signature : String} :
      Serves number
        ⟨.store (.deleteSwaps signature), some (.ok (shop.rows.countP (·.id == signature)))⟩
        (shop.clear number signature)
  | notCleared {signature : String} {failure : Failure} :
      Serves number ⟨.store (.deleteSwaps signature), some (.error failure)⟩ shop
  /-- What else is shared concerns neither the queue nor the rows. -/
  | shared {call : SharedCall} {answer : Option call.Answer} :
      Serves number ⟨.shared call, answer⟩ shop

/-- What a request of a worker does. -/
def Answers (number : Nat) (seen : Option (AnsweredCall Services)) (next : Workshop) : Prop :=
  match seen with
  | none => next = shop
  | some answered => shop.Serves number answered next

end Workshop

/-- Workers at work: what they share, and what each of them is about to do. -/
structure Shift where
  shop : Workshop
  programs : Nat → Program Services (Option Job)

namespace Shift

/-- One thing that happens. -/
inductive Step (crew : Crew) (catalogue : Catalogue) (shift : Shift) : Shift → Prop where
  | publish {payload : String} (described : catalogue.Describes payload) :
      Step crew catalogue shift
        { shift with shop := shift.shop.withQueue (shift.shop.queue.publish payload) }
  | close :
      Step crew catalogue shift { shift with shop := shift.shop.withQueue shift.shop.queue.close }
  | reopen :
      Step crew catalogue shift { shift with shop := shift.shop.withQueue shift.shop.queue.reopen }
  | setPrefetch {limit : UInt16} :
      Step crew catalogue shift
        { shift with shop := shift.shop.withQueue { shift.shop.queue with prefetch := limit } }
  | ask {number : Nat} {request : Request Services}
      {resume : request.Answer → Program Services (Option Job)} {answer : request.Answer}
      {next : Workshop} (asks : shift.programs number = .ask request resume)
      (answers : shift.shop.Answers number (request.answeredCall? answer) next) :
      Step crew catalogue shift ⟨next, Function.update shift.programs number (resume answer)⟩
  | turn {number : Nat} {job : Job} (ended : shift.programs number = .done (some job)) :
      Step crew catalogue shift
        { shift with
          programs := Function.update shift.programs number ((crew.worker number).turn true) }

/-- What can come about. -/
inductive Reachable (crew : Crew) (catalogue : Catalogue) : Shift → Prop where
  | initial (prefetch : UInt16) :
      Reachable crew catalogue ⟨.initial prefetch, fun number => (crew.worker number).turn false⟩
  | step {before after : Shift} (reachable : Reachable crew catalogue before)
      (step : Step crew catalogue before after) : Reachable crew catalogue after

variable {Result Other : Type}

/-- A worker gets on with a program while the others wait. -/
inductive Performs (number : Nat) : Workshop → Program Services Result → Workshop →
    Program Services Result → Prop where
  | here (shop : Workshop) (program : Program Services Result) :
      Performs number shop program shop program
  | ask {shop middle last : Workshop} {request : Request Services}
      {resume : request.Answer → Program Services Result} {rest : Program Services Result}
      (answer : request.Answer)
      (answers : shop.Answers number (request.answeredCall? answer) middle)
      (later : Performs number middle (resume answer) last rest) :
      Performs number shop (.ask request resume) last rest

namespace Performs

variable {number : Nat} {shop middle last : Workshop} {program rest : Program Services Result}

/-- What a program performs, it performs as the first part of a longer one. -/
theorem bind {next : Result → Program Services Other}
    (performs : Performs number shop program last rest) :
    Performs number shop (program >>= next) last (rest >>= next) := by
  induction performs with
  | here shop program => exact .here _ _
  | ask answer answers _ ih => exact .ask answer answers ih

theorem trans {last' : Workshop} {rest' : Program Services Result}
    (performs : Performs number shop program last rest)
    (later : Performs number last rest last' rest') : Performs number shop program last' rest' := by
  induction performs with
  | here => exact later
  | ask answer answers _ ih => exact .ask answer answers (ih later)

/-- What one client performs from a reachable workshop leads to a reachable one, the programs of the
others being left as they were. -/
theorem reachable {crew : Crew} {catalogue : Catalogue} {last : Workshop}
    {programs : Nat → Program Services (Option Job)} {rest : Program Services (Option Job)}
    (reachable : Reachable crew catalogue ⟨shop, programs⟩)
    (performs : Performs number shop (programs number) last rest) :
    Reachable crew catalogue ⟨last, Function.update programs number rest⟩ := by
  generalize asks : programs number = program at performs
  induction performs generalizing programs with
  | here shop program =>
      rw [← asks, Function.update_eq_self]
      exact reachable
  | ask answer answers _ ih =>
      have later := ih (reachable.step (.ask asks answers)) (Function.update_self _ _ _)
      rwa [Function.update_idem] at later

/-- A program that is done changes nothing any more. -/
theorem eq_of_done {result other : Result}
    (performs : Performs number shop (.done result) last (.done other)) : shop = last := by
  cases performs
  rfl

theorem reportAll (entries : List LogEntry) :
    Performs number shop (Program.reportAll entries) shop (.done ()) := by
  induction entries with
  | nil => exact .here _ _
  | cons entry rest ih => exact .ask () rfl ih

/-! ### Workers -/

variable {number : Nat} {shop cleared attempted last : Workshop} {worker : Worker} {tag : Nat}
  {item : WorkItem} {delivery : Delivery} {queue : MemoryQueue} {settlement : Settlement}

theorem addLookups (addresses : List Address) :
    Performs number shop (Worker.addLookups addresses) shop (.done ()) := by
  induction addresses with
  | nil => exact .here _ _
  | cons address rest ih =>
      exact @Performs.ask _ number shop _ _ (.call (.shared (.addLookup address))) _ _ false
        .shared ih

/-- A worker that settles with success acknowledges when the queue still knows the tag. -/
theorem acknowledges (settled : shop.queue.acknowledge tag = .ok queue) :
    Performs number shop (worker.settle tag .acknowledged) (shop.acknowledge tag queue)
      (.done .acknowledged) :=
  @Performs.ask _ number shop _ _ (.call (.queue (.acknowledge tag))) _ _ (.ok ())
    (.acknowledged settled) (.here _ _)

/-- A worker that gives an item back rejects it, with a place at the head of the queue. -/
theorem givesBack (settled : shop.queue.reject tag true = .ok queue) :
    Performs number shop (worker.settle tag .requeued) (shop.withQueue queue) (.done .requeued) :=
  @Performs.ask _ number shop _ _ (.call (.queue (.reject tag true))) _ _ (.ok ())
    (.rejected settled) (.here _ _)

/-- A queue that does not know the tag any more refuses, and nothing changes. -/
theorem givesUp {failure : Failure} (refused : shop.queue.reject tag true = .error failure) :
    Performs number shop (worker.settle tag .requeued) shop (.done .requeued) :=
  @Performs.ask _ number shop _ _ (.call (.queue (.reject tag true))) _ _ (.error failure)
    (.notRejected refused) (@Performs.ask _ number shop _ _ (.report _) _ _ () rfl (.here _ _))

theorem clears (signature : String) :
    Performs number shop (worker.clear [signature]) (shop.clear number signature) (.done ()) :=
  @Performs.ask _ number shop _ _ (.call (.store (.deleteSwaps signature))) _ _ (.ok _) .cleared
    (.here _ _)

/-- A worker that stores swaps is told that they are stored, or told to stop. -/
theorem inserts {swaps : List SwapRecord} {outcome : Option (Except Failure Unit)}
    (final : outcome = none ∨ outcome = some (.ok ()))
    (serves : shop.Serves number ⟨.store (.insertSwaps swaps), outcome⟩ attempted) :
    Performs number shop (worker.insert swaps).unlessStopped attempted (.done outcome) := by
  have stores : Performs number shop (Services.store (.insertSwaps swaps)).unlessStopped attempted
      (.done outcome) := by
    rw [Services.store, Program.unlessStopped]
    rcases final with rfl | rfl
    · exact .ask none serves (.here _ _)
    · exact .ask (some (.ok ())) serves (.here _ _)
  rw [Worker.insert, Program.unlessStopped_bind, RetryPolicy.retrying,
    RetryPolicy.retryingFrom.eq_def, Program.unlessStopped_bind]
  rcases final with rfl | rfl
  · exact stores.bind.bind
  · exact stores.bind.bind

/-- A worker with a delivery in which there are swaps removes what was stored before, if it has to,
and tries to store them once. -/
theorem handle {outcome : Option (Except Failure Unit)}
    (readable : WorkItem.ofPayload? delivery.payload = some item)
    (clears : Performs number shop
      (if delivery.redelivered then worker.clear item.signatures else .done ()) cleared (.done ()))
    (swaps_ne : item.swaps worker.registry ≠ [])
    (final : outcome = none ∨ outcome = some (.ok ()))
    (serves : cleared.Serves number ⟨.store (.insertSwaps (item.swaps worker.registry)), outcome⟩
      attempted)
    (settles : Performs number attempted
      (worker.settle delivery.tag (if outcome.isSome then .acknowledged else .requeued)) last
      (.done settlement)) :
    Performs number shop (worker.handle delivery) last (.done settlement) := by
  have filled : (item.swaps worker.registry).isEmpty = false :=
    List.isEmpty_eq_false_iff.mpr swaps_ne
  rcases delivery with ⟨tag, payload, redelivered⟩
  rw [Worker.handle, readable]
  change Performs number shop (worker.handleItem tag redelivered item) last (.done settlement)
  rw [Worker.handleItem]
  refine @Performs.ask _ number shop _ _ .clock _ _ 0 rfl ?_
  simp only [Program.done_andThen, filled, Bool.false_eq_true, if_false, if_true]
  cases redelivered
  case' false => cases eq_of_done clears
  case' true => refine trans clears.bind ?_
  all_goals
    refine trans (reportAll _).bind ?_
    refine trans (addLookups _).bind ?_
    refine trans (inserts final serves).bind ?_
    rcases final with rfl | rfl
    · exact settles
    · refine trans settles.bind ?_
      refine @Performs.ask _ number last _ _ (.call (.shared (.broadcast _))) _ _ () .shared ?_
      refine @Performs.ask _ number last _ _ .clock _ _ 0 rfl ?_
      exact @Performs.ask _ number last _ _ (.report _) _ _ () rfl (.here _ _)

/-- A turn of a worker takes the delivery that the queue has for it and goes on to handle it. -/
theorem step (consumed : shop.queue.consume? = some (.ok delivery, queue)) :
    Performs number shop worker.step (shop.take number delivery queue)
      (worker.handle delivery >>= fun _ => .done true) := by
  refine @Performs.ask _ number shop _ _ .stopRequested _ _ false rfl ?_
  exact @Performs.ask _ number shop _ _ (.call (.queue .consume)) _ _ (.ok (some delivery))
    (.delivered consumed) (.here _ _)

/-- A worker that takes a delivery goes on to deal with it. Others may have changed the workshop by
then. -/
theorem exists_takes (worker : Worker)
    (consumed : shop.queue.consume? = some (.ok delivery, queue)) :
    ∃ rest, Performs number shop (worker.turn false) (shop.take number delivery queue) rest ∧
      ∀ changed last settlement,
        Performs number changed (worker.handle delivery) last (.done settlement) →
          Performs number changed rest last (.done (some (.worker worker.id true))) :=
  ⟨_, @Performs.ask _ number shop _ _ (.report _) _ _ () rfl (step consumed).bind,
    fun _ _ _ handles => handles.bind.bind⟩

end Performs

end Shift

end SwapLedger
