import SwapLedger.Settings
import SwapLedger.SwapStore

/-!
# The queue in the database

A work queue that outlives the process. A payload that is handed out stays in the table and is
hidden for a while; acknowledging it removes it, and giving it back shows it again. How many
deliveries are held is limited by credits, which are this process's own.
-/

namespace SwapLedger

/-- A queue in the database, known to this process by a number. -/
structure TableQueue where
  number : Nat
  settings : QueueSettings

namespace TableQueue

variable (queue : TableQueue)

/-- What a failure of the database means for a queue: without a connection the queue is busy or
gone. -/
def failure : DatabaseFailure → Failure
  | .timedOut => .queue DatabaseFailure.timedOut.message
  | .closed => .queueClosed DatabaseFailure.closed.message
  | .lost => .queueClosed DatabaseFailure.lost.message
  | other => .database other

/-- The delivery of a row. -/
def delivery (row : ClaimedRow) : Delivery := ⟨row.id, row.payload, decide (1 < row.deliveries)⟩

/-- Waits before the queue is asked again, unless this should come to an end. -/
def rest : Program Wire (Except Failure (Option Delivery)) := do
  let _ ← (Program.pause queue.settings.pollIntervalMs.toNat).unlessStopped
  return .ok none

/-- Claims a delivery if there is credit for one, and waits a while if there is none. -/
def consume : Program Wire (Except Failure (Option Delivery)) := do
  if ← Wire.credits (.reserve queue.number) then
    let claim := Statement.claim queue.settings.name queue.settings.visibilityTimeoutSecs
    match ← (SwapStore.query claim).unlessStopped with
    | some (.ok (some row)) => return .ok (some (delivery row))
    | some (.ok none) =>
      Wire.credits (.cancel queue.number)
      queue.rest
    | some (.error error) =>
      Wire.credits (.cancel queue.number)
      return .error (failure error)
    | none =>
      Wire.credits (.cancel queue.number)
      return .ok none
  else queue.rest

/-- Executes a statement that settles a delivery, which frees its credit in any case. -/
def settle (statement : Statement) : Program Wire (Except Failure Unit) := do
  let outcome ← SwapStore.query statement
  Wire.credits (.refund queue.number)
  match outcome with
  | .ok _ => return .ok ()
  | .error error => return .error (failure error)

/-- Gives a delivery back or throws it away. -/
def reject (tag : Nat) (requeue : Bool) : Program Wire (Except Failure Unit) := do
  let id := Statement.integer tag
  if requeue then queue.settle (.release id)
  else
    let outcome ← queue.settle (.remove id)
    if let .ok () := outcome then
      .report (.plain .warn .tableQueue "Discarded rejected delivery"
        [("tag", .number tag), ("queue", .shown queue.settings.name)])
    return outcome

/-- Provides the queue. -/
def serve : (call : QueueCall) → Program Wire call.Answer
  | .createTables => do
    return (← SwapStore.queryAll [.createWork, .createWorkIndex]).mapError .database
  | .publish item => do
    return (← SwapStore.query (.publish queue.settings.name item.toPayload)).mapError failure
  | .consume => queue.consume
  | .acknowledge tag => queue.settle (.remove (Statement.integer tag))
  | .reject tag requeue => queue.reject tag requeue
  | .depth => do
    let outcome ← SwapStore.query (.depth queue.settings.name)
    return (outcome.map fun depth => .ofNat depth).mapError failure
  | .setPrefetch limit => do
    Wire.credits (.setLimit queue.number limit)
    return .ok ()
  | .reconnect => do return (← SwapStore.query .ping).mapError failure

end TableQueue

end SwapLedger
