/-!
# Broadcasts

Batches are shown to everyone who has subscribed. Only the newest batches are kept, so that a
subscriber who is too slow misses some and is told how many.
-/

namespace SwapLedger

/-- A channel with its subscribers. -/
structure Broadcast (Batch : Type) where
  /-- How many batches are kept. -/
  capacity : Nat
  /-- The newest batches, the oldest of them first. -/
  kept : List Batch
  /-- How many batches there have been. -/
  total : Nat
  /-- How many batches each subscriber is through with. -/
  positions : List Nat

/-- What a subscriber receives. -/
inductive Reception (Batch : Type) where
  | batch (batch : Batch)
  /-- There is nothing new. -/
  | empty
  /-- That many batches have been missed. -/
  | lagged (missed : Nat)

namespace Broadcast

variable {Batch : Type}

/-- The least power of two that is not less than a number. -/
def roundUp (number : Nat) : Nat := if number ≤ 1 then 1 else 1 <<< ((number - 1).log2 + 1)

/-- A channel that nobody has subscribed to. -/
def withCapacity (capacity : Nat) : Broadcast Batch := ⟨roundUp capacity, [], 0, []⟩

variable (channel : Broadcast Batch)

/-- Adds a subscriber, who sees what is sent from now on. -/
def subscribe : Broadcast Batch :=
  { channel with positions := channel.positions ++ [channel.total] }

/-- Shows a batch to all subscribers. Without subscribers nothing is kept. -/
def send (batch : Batch) : Broadcast Batch :=
  if channel.positions.isEmpty then channel
  else
    let kept := channel.kept ++ [batch]
    { channel with kept := kept.drop (kept.length - channel.capacity), total := channel.total + 1 }

/-- What the subscriber of a number receives next, if there is such a subscriber. -/
def receive? (subscriber : Nat) : Option (Reception Batch × Broadcast Batch) := do
  let position ← channel.positions[subscriber]?
  let moved (next : Nat) : Broadcast Batch :=
    { channel with positions := channel.positions.set subscriber next }
  let oldest := channel.total - channel.kept.length
  if position < oldest then return (.lagged (oldest - position), moved oldest)
  else
    match channel.kept[position - oldest]? with
    | some batch => return (.batch batch, moved (position + 1))
    | none => return (.empty, channel)

end Broadcast

end SwapLedger
