import SwapLedger.RetryPolicy.Retrying
import SwapLedger.Services
import SwapLedger.WorkItem.Swaps

/-!
# Workers

A worker takes deliveries from the queue, looks for the swaps of their transactions and stores them.
A delivery is acknowledged once its swaps are stored, thrown away if its payload is no work item,
and given back otherwise. When the connection to the queue is gone, one worker at a time tries to
restore it.
-/

namespace SwapLedger

/-- How a delivery was settled. -/
inductive Settlement where
  | acknowledged
  /-- Thrown away. -/
  | rejected
  /-- Given back. -/
  | requeued
  deriving DecidableEq

namespace Settlement

/-- The word for how a delivery was settled. -/
def label : Settlement → String
  | .acknowledged => "acked"
  | .rejected => "rejected"
  | .requeued => "requeued"

end Settlement

/-- A worker with what it needs to know. -/
structure Worker where
  id : Nat
  registry : Registry
  insertRetry : RetryPolicy
  reconnectRetry : RetryPolicy

namespace Worker

variable (worker : Worker)

/-- An entry about this worker. -/
def entry (level : LogLevel) (message : String) (fields : List (String × LogValue)) : LogEntry :=
  .plain level .worker message (("worker_id", .number worker.id) :: fields)

/-- Sends what settles a delivery; the queue hands out again what it could not settle. -/
def settle (tag : Nat) (settlement : Settlement) : Program Services Settlement := do
  let outcome ← match settlement with
    | .acknowledged => Services.queue (.acknowledge tag)
    | .rejected => Services.queue (.reject tag false)
    | .requeued => Services.queue (.reject tag true)
  match outcome with
  | .ok () => return settlement
  | .error failure =>
    .report (worker.entry .warn "Failed to settle delivery"
      [("tag", .number tag), ("error", .shown failure.message)])
    return settlement

/-- Removes what an earlier attempt may have stored. -/
def clear : (signatures : List String) → Program Services Unit
  | [] => return ()
  | signature :: rest => do
    if let .error failure ← Services.store (.deleteSwaps signature) then
      .report (worker.entry .warn "Failed to clear swaps of redelivered transaction"
        [("signature", .shown signature), ("error", .shown failure.message)])
    clear rest

/-- Asks for the metadata of what was traded. -/
def addLookups : List Address → Program Services Unit
  | [] => return ()
  | address :: rest => do
    if ← Services.shared (.addLookup address) then
      .report (.plain .trace .metadata "Metadata writer gone, dropping lookup"
        [("address", .quoted address)])
    addLookups rest

/-- The failure of storing swaps. -/
def insertFailure : Failure → Failure
  | .retryExhausted attempts lastError =>
    .batchInsertFailed attempts (Failure.retryExhausted attempts lastError).message
  | failure => .batchInsertFailed 1 failure.message

/-- Stores swaps, trying again if need be. -/
def insert (swaps : List SwapRecord) : Program Services (Except Failure Unit) := do
  return (← worker.insertRetry.retrying "insert_swaps" (Services.store (.insertSwaps swaps))).mapError
    insertFailure

/-- Deals with an item whose payload could be read. -/
def handleItem (tag : Nat) (redelivered : Bool) (item : WorkItem) :
    Program Services Settlement := do
  let started ← .clock
  if redelivered then worker.clear item.signatures
  let swaps := item.swaps worker.registry
  .reportAll (item.detectionLog worker.registry)
  addLookups (swaps.flatMap (·.lookups))
  let finish : Program Services Settlement := do
    let settlement ← worker.settle tag .acknowledged
    if swaps.isEmpty = false then Services.shared (.broadcast swaps)
    .report (.batch item.blockNumber.toNat item.transactions.length swaps.length
      ((← .clock) - started))
    return settlement
  if swaps.isEmpty then finish
  else
    match ← (worker.insert swaps).unlessStopped with
    | none => worker.settle tag .requeued
    | some (.ok ()) => finish
    | some (.error failure) =>
      .report (.failure ("Worker " ++ toString worker.id ++ " slot " ++ toString item.blockNumber)
        failure.message)
      worker.settle tag .requeued

/-- Deals with a delivery and settles it. -/
def handle (delivery : Delivery) : Program Services Settlement :=
  match WorkItem.ofPayload? delivery.payload with
  | some item => worker.handleItem delivery.tag delivery.redelivered item
  | none => do
    .report (worker.entry .warn "Rejecting malformed work item"
      [("tag", .number delivery.tag), ("error", .shown (Failure.serialization "").message)])
    worker.settle delivery.tag .rejected

/-- Restores the connection to the queue; answers whether the worker goes on. -/
def reconnect (reason : String) : Program Services Bool := do
  .report (worker.entry .warn "Queue connection closed, reconnecting" [("reason", .quoted reason)])
  Services.shared .lockReconnect
  let outcome ←
    (worker.reconnectRetry.retrying "queue_reconnect" (Services.queue .reconnect)).unlessStopped
  Services.shared .unlockReconnect
  match outcome with
  | none => return false
  | some (.ok ()) => return true
  | some (.error failure) =>
    .report (.failure ("Worker " ++ toString worker.id ++ " giving up") failure.message)
    return false

/-- How long a worker waits when the queue could not be asked. -/
def consumePauseMs : Nat := 1000

/-- Takes one delivery, if there is one, and deals with it; answers whether the worker goes on. -/
def step : Program Services Bool := do
  if ← .stopRequested then return false
  else
    match ← Services.queue .consume with
    | .ok none => return true
    | .ok (some delivery) =>
      let _ ← worker.handle delivery
      return true
    | .error (.queueClosed reason) => worker.reconnect reason
    | .error failure =>
      .report (worker.entry .warn "Consume failed" [("error", .shown failure.message)])
      return (← (Program.pause consumePauseMs).unlessStopped).isSome

/-- One turn of a worker, who leaves the pool in the end. -/
def turn (started : Bool) : Program Services (Option Job) := do
  if started = false then .report (worker.entry .debug "Worker started" [])
  if ← worker.step then return some (.worker worker.id true)
  else
    .report (worker.entry .debug "Worker stopped" [])
    Services.shared (.leave worker.id)
    return none

end Worker

end SwapLedger
