import SwapLedger.DatabaseAddress
import SwapLedger.Services
import SwapLedger.Statement

/-!
# The wire

What is needed of the outer world to provide the services: connections to a database, exchanges with
nodes over HTTP, the block stream, and some state of this process.
-/

namespace SwapLedger

/-- Calls of the database. A program holds at most one connection at a time. -/
inductive DatabaseCall where
  /-- Sets up a pool of at most so many connections to a database. -/
  | openPool (target : DatabaseTarget) (connections : Nat)
  /-- Waits for a connection. -/
  | acquire
  | execute (statement : Statement)
  /-- Gives the connection back, or drops it if it is broken. -/
  | giveBack (broken : Bool)
  | close

/-- What the database answers. -/
@[reducible] def DatabaseCall.Answer : DatabaseCall → Type
  | .acquire => Except DatabaseFailure Unit
  | .execute statement => Except DatabaseFailure statement.Answer
  | _ => Unit

/-- Calls that concern the number of deliveries a table queue holds; queues are known by number. -/
inductive CreditCall where
  /-- Reserves one more delivery, if the limit allows it. -/
  | reserve (queue : Nat)
  /-- Takes back a reservation under which nothing was delivered. -/
  | cancel (queue : Nat)
  /-- Frees the credit of a delivery that is settled. -/
  | refund (queue : Nat)
  | setLimit (queue : Nat) (limit : UInt16)

/-- The queue that a call concerns. -/
def CreditCall.queue : CreditCall → Nat
  | .reserve queue | .cancel queue | .refund queue | .setLimit queue _ => queue

/-- What is answered about credits. -/
@[reducible] def CreditCall.Answer : CreditCall → Type
  | .reserve _ => Bool
  | _ => Unit

/-- A request that is sent to a node. -/
structure NodeRequest where
  url : String
  method : String
  params : List Json

/-- What comes back from a node. -/
inductive NodeReply where
  /-- There is no node. -/
  | unreachable
  /-- The connection was closed without an answer. -/
  | dropped
  | answered (status : Nat) (retryAfter : Option String) (body : String)

/-- All calls of the outer world. -/
inductive WireCall where
  | database (call : DatabaseCall)
  | credits (call : CreditCall)
  | memoryQueue (call : QueueCall)
  | node (request : NodeRequest)
  | stream (call : StreamCall)
  | shared (call : SharedCall)

/-- What the outer world answers. -/
@[reducible] def WireCall.Answer : WireCall → Type
  | .database call => call.Answer
  | .credits call => call.Answer
  | .memoryQueue call => call.Answer
  | .node _ => NodeReply
  | .stream call => call.Answer
  | .shared call => call.Answer

/-- The interface of the outer world. -/
@[reducible] def Wire : Interface := ⟨WireCall, WireCall.Answer⟩

namespace Wire

/-- A call of the database. -/
def database (call : DatabaseCall) : Program Wire call.Answer :=
  .ask (.call (WireCall.database call)) .done

/-- A call that concerns credits. -/
def credits (call : CreditCall) : Program Wire call.Answer :=
  .ask (.call (WireCall.credits call)) .done

/-- A call of the queue in memory. -/
def memoryQueue (call : QueueCall) : Program Wire call.Answer :=
  .ask (.call (WireCall.memoryQueue call)) .done

/-- A request to a node. -/
def node (request : NodeRequest) : Program Wire NodeReply :=
  .ask (.call (WireCall.node request)) .done

/-- A call of the block stream. -/
def stream (call : StreamCall) : Program Wire call.Answer :=
  .ask (.call (WireCall.stream call)) .done

/-- A call that concerns what is shared. -/
def shared (call : SharedCall) : Program Wire call.Answer :=
  .ask (.call (WireCall.shared call)) .done

end Wire

end SwapLedger
