import SwapLedger.Wire

/-!
# Out of reach

What is answered where nothing of the outer world can be reached: no database, no node and no block
stream. Programs then come to an end with the failure that they have for this.
-/

namespace SwapLedger

namespace Unreachable

/-- Answers the calls of the database: no connection can be had. -/
def database : (call : DatabaseCall) → call.Answer
  | .openPool _ _ => ()
  | .acquire => .error .timedOut
  | .execute _ => .error .lost
  | .giveBack _ => ()
  | .close => ()

/-- Answers the calls that concern credits: there are none. -/
def credits : (call : CreditCall) → call.Answer
  | .reserve _ => false
  | .cancel _ => ()
  | .refund _ => ()
  | .setLimit _ _ => ()

/-- The failure of a queue that is not there. -/
def queueFailure : Failure := .queueClosed "no queue"

/-- Answers the calls of the queue in memory: it is closed. -/
def queue : (call : QueueCall) → call.Answer
  | .createTables => .ok ()
  | .publish _ => .error queueFailure
  | .consume => .error queueFailure
  | .acknowledge _ => .error queueFailure
  | .reject _ _ => .error queueFailure
  | .depth => .error queueFailure
  | .setPrefetch _ => .error queueFailure
  | .reconnect => .error queueFailure

/-- Answers the calls of the block stream: it cannot be connected to. -/
def stream : (call : StreamCall) → call.Answer
  | .connect => .error "no connection"
  | .subscribe _ => .error "no connection"
  | .receive => .ended
  | .pong _ => .error "no connection"

/-- Answers the calls that concern what is shared: nothing is. -/
def shared : (call : SharedCall) → call.Answer
  | .takeTurn => (0 : Nat)
  | .prefetch => (0 : UInt16)
  | .resize _ => (0 : Nat)
  | .lastProcessed => (none : Option Slot)
  | .nextLookup _ => LookupEvent.ended
  | .takeLookups => ([] : LookupBatch)
  | .awaitShutdown => false
  | .addLookup _ => true
  | .startRotation | .notePrefetch _ | .leave _ | .lockReconnect | .unlockReconnect
  | .noteProcessed _ | .broadcast _ | .abandonLookups | .launch _ | .join _ | .giveSignal _ => ()

/-- Answers all calls. -/
def answer : (call : WireCall) → call.Answer
  | .database call => database call
  | .credits call => credits call
  | .memoryQueue call => queue call
  | .node _ => .unreachable
  | .stream call => stream call
  | .shared call => shared call

end Unreachable

end SwapLedger
