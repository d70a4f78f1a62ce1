import SwapLedger.EncodedBlock
import SwapLedger.Job
import SwapLedger.MemoryQueue
import SwapLedger.Program
import SwapLedger.SwapRecord

/-!
# Services

What the programs of this library call: the work queue, the store, the nodes, the block stream, and
what the parts of one running instance share with each other.
-/

namespace SwapLedger

/-- Calls of the work queue. -/
inductive QueueCall where
  | createTables
  | publish (item : WorkItem)
  /-- Waits for a delivery. There may be none for a while. -/
  | consume
  | acknowledge (tag : Nat)
  | reject (tag : Nat) (requeue : Bool)
  | depth
  | setPrefetch (limit : UInt16)
  | reconnect

/-- What the work queue answers. -/
@[reducible] def QueueCall.Answer : QueueCall → Type
  | .consume => Except Failure (Option Delivery)
  | .depth => Except Failure UInt64
  | _ => Except Failure Unit

/-- Calls of the store. -/
inductive StoreCall where
  | connect
  | createTables
  /-- Enters a block into the ledger of processed blocks. -/
  | markProcessed (slot : Slot)
  | insertSwaps (swaps : List SwapRecord)
  /-- Removes the swaps of a transaction. -/
  | deleteSwaps (signature : String)
  /-- The blocks that are missing from the ledger between its first and its last block. -/
  | missingBlocks
  | enqueueLookups (addresses : List Address)
  | close

/-- What the store answers. -/
@[reducible] def StoreCall.Answer : StoreCall → Type
  | .deleteSwaps _ => Except Failure Nat
  | .missingBlocks => Except Failure (List Slot)
  | .close => Unit
  | _ => Except Failure Unit

/-- Calls of a node. -/
inductive NodeCall where
  | block (slot : Slot)
  /-- The newest slot. -/
  | tip
  | transaction (signature : String)

/-- What a node answers. -/
@[reducible] def NodeCall.Answer : NodeCall → Type
  | .block _ => Except Failure EncodedBlock
  | .tip => Except Failure Slot
  | .transaction _ => Except Failure ConfirmedTransaction

/-- Calls of the block stream. -/
inductive StreamCall where
  | connect
  | subscribe (request : Json)
  | receive
  | pong (payload : Bytes)

/-- What comes in over the block stream. -/
inductive StreamEvent where
  | text (text : String)
  | ping (payload : Bytes)
  /-- A message that means nothing here. -/
  | other
  /-- The other side closes the stream. -/
  | closing
  /-- The stream is over. -/
  | ended
  | failed (reason : String)

/-- What the block stream answers; a failure comes with its reason. -/
@[reducible] def StreamCall.Answer : StreamCall → Type
  | .receive => StreamEvent
  | _ => Except String Unit

/-- What the writer of lookups waits for. -/
inductive LookupEvent where
  | address (address : Address)
  /-- It is time to write. -/
  | due
  /-- No more lookups are to be waited for. -/
  | ended

/-- Calls that concern what the parts of a running instance share. -/
inductive SharedCall where
  /-- Starts a rotation among the nodes. -/
  | startRotation
  /-- The next number of the rotation. -/
  | takeTurn
  /-- The prefetch that was set last. -/
  | prefetch
  | notePrefetch (limit : UInt16)
  /-- Starts or stops workers until there are that many; answers how many there were. -/
  | resize (workers : Nat)
  /-- A worker is no longer there. -/
  | leave (worker : Nat)
  | lockReconnect
  | unlockReconnect
  /-- The greatest slot that the listener has dealt with. -/
  | lastProcessed
  | noteProcessed (slot : Slot)
  | broadcast (swaps : List SwapRecord)
  | addLookup (address : Address)
  /-- Waits for a lookup until an instant. -/
  | nextLookup (instant : Nat)
  /-- All lookups that are waiting. -/
  | takeLookups
  /-- Nobody will take lookups any more. -/
  | abandonLookups
  | launch (job : Job)
  /-- Waits until no job of a kind is left. -/
  | join (kind : JobKind)
  | giveSignal (signal : StopSignal)
  /-- Waits until the user interrupts or the instance should come to an end; answers whether the
  user did. -/
  | awaitShutdown

/-- What is answered about what is shared. -/
@[reducible] def SharedCall.Answer : SharedCall → Type
  | .takeTurn => Nat
  | .prefetch => UInt16
  | .resize _ => Nat
  | .lastProcessed => Option Slot
  | .nextLookup _ => LookupEvent
  | .takeLookups => LookupBatch
  | .awaitShutdown => Bool
  | .addLookup _ => Bool
  | _ => Unit

/-- All that the programs call. -/
inductive ServiceCall where
  | queue (call : QueueCall)
  | store (call : StoreCall)
  /-- A call of the node of a number. -/
  | node (client : Nat) (call : NodeCall)
  | stream (call : StreamCall)
  | shared (call : SharedCall)

/-- What the services answer. -/
@[reducible] def ServiceCall.Answer : ServiceCall → Type
  | .queue call => call.Answer
  | .store call => call.Answer
  | .node _ call => call.Answer
  | .stream call => call.Answer
  | .shared call => call.Answer

/-- The interface of the programs of this library. -/
@[reducible] def Services : Interface := ⟨ServiceCall, ServiceCall.Answer⟩

namespace Services

/-- A call of the work queue. -/
def queue (call : QueueCall) : Program Services call.Answer :=
  .ask (.call (ServiceCall.queue call)) .done

/-- A call of the store. -/
def store (call : StoreCall) : Program Services call.Answer :=
  .ask (.call (ServiceCall.store call)) .done

/-- A call of the node of a number. -/
def node (client : Nat) (call : NodeCall) : Program Services call.Answer :=
  .ask (.call (ServiceCall.node client call)) .done

/-- A call of the block stream. -/
def stream (call : StreamCall) : Program Services call.Answer :=
  .ask (.call (ServiceCall.stream call)) .done

/-- A call that concerns what is shared. -/
def shared (call : SharedCall) : Program Services call.Answer :=
  .ask (.call (ServiceCall.shared call)) .done

end Services

end SwapLedger
