import SwapLedger.Failure

/-!
# The queue in memory

A queue of payloads that lives as long as the process. A payload that is handed out is held under a
tag until it is settled: acknowledged, thrown away, or put back at the head of the queue. Closing
the queue puts everything held back, in the order of the tags. The queue does not look into what it
carries; outside of what is said about queues, payloads are texts.
-/

namespace SwapLedger

/-- A payload that is handed out. -/
structure Delivery (Payload : Type := String) where
  /-- What the delivery is settled by. -/
  tag : Nat
  payload : Payload
  /-- Whether the payload has been handed out before. -/
  redelivered : Bool
  deriving DecidableEq

/-- A payload that waits to be handed out. -/
structure QueuedPayload (Payload : Type := String) where
  payload : Payload
  /-- Whether the payload has been handed out before. -/
  redelivered : Bool
  deriving DecidableEq

/-- A queue with the deliveries that are held. -/
structure MemoryQueue (Payload : Type := String) where
  /-- What waits to be handed out, in order. -/
  ready : List (QueuedPayload Payload)
  /-- What is held, by ascending tags. -/
  held : List (Nat × QueuedPayload Payload)
  /-- The tag of the next delivery. Tags are counted without a bound, where the machine has 64-bit
  words. -/
  nextTag : Nat
  /-- How many deliveries may be held together; zero stands for any number. -/
  prefetch : UInt16
  closed : Bool
  deriving DecidableEq

namespace MemoryQueue

variable {Payload : Type}

/-- An open queue with nothing in it. -/
def empty (prefetch : UInt16) : MemoryQueue Payload := ⟨[], [], 1, prefetch, false⟩

variable (queue : MemoryQueue Payload)

/-- How many payloads wait to be handed out. -/
def depth : Nat := queue.ready.length

/-- Adds a payload at the end. -/
def publish (payload : Payload) : MemoryQueue Payload :=
  { queue with ready := queue.ready ++ [⟨payload, false⟩] }

/-- Whether one more delivery may be held. -/
def hasCredit : Bool :=
  queue.prefetch == 0 || decide (queue.held.length < queue.prefetch.toNat)

/-- Hands out the first payload. There is no answer as long as nothing can be handed out. -/
def consume? : Option (Except Failure (Delivery Payload) × MemoryQueue Payload) :=
  if queue.closed then some (.error (.queueClosed "in-memory queue closed"), queue)
  else if queue.hasCredit = false then none
  else
    match queue.ready with
    | [] => none
    | next :: rest =>
      some (.ok ⟨queue.nextTag, next.payload, next.redelivered⟩,
        { queue with
          ready := rest, held := queue.held ++ [(queue.nextTag, next)],
          nextTag := queue.nextTag + 1 })

/-- Ends the holding of a tag. -/
def settle (tag : Nat) : Except Failure (QueuedPayload Payload × MemoryQueue Payload) :=
  match queue.held.find? (·.1 == tag) with
  | none => .error (.queue ("unknown delivery tag " ++ toString tag))
  | some (_, item) => .ok (item, { queue with held := queue.held.filter (·.1 != tag) })

/-- Settles a delivery for good. -/
def acknowledge (tag : Nat) : Except Failure (MemoryQueue Payload) := (queue.settle tag).map (·.2)

/-- Refuses a delivery: it is put back at the head of the queue, or thrown away. To end the holding
and to put the payload back are two accesses to the queue; here they are one step, so nobody sees
the queue between them. -/
def reject (tag : Nat) (requeue : Bool) : Except Failure (MemoryQueue Payload) := do
  let (item, queue) ← queue.settle tag
  return if requeue then { queue with ready := ⟨item.payload, true⟩ :: queue.ready } else queue

/-- Breaks the connection to those who consume. -/
def close : MemoryQueue Payload :=
  { queue with
    ready := queue.held.map (fun (_, item) => ⟨item.payload, true⟩) ++ queue.ready, held := [],
    closed := true }

/-- Restores the connection. -/
def reopen : MemoryQueue Payload := { queue with closed := false }

end MemoryQueue

end SwapLedger
