import SwapLedger.ScalingTable
import SwapLedger.Services

/-!
# The pool of workers

The pool is sized by the depth of the queue. The number of deliveries that the queue hands out is
changed first; if the queue refuses, the pool stays as it is.
-/

namespace SwapLedger

namespace WorkerPool

variable (table : ScalingTable)

/-- Tells the queue how many deliveries may be held. -/
def setPrefetch (limit : UInt16) : Program Services (Except Failure Unit) := do
  match ← Services.queue (.setPrefetch limit) with
  | .error failure => return .error failure
  | .ok () =>
    Services.shared (.notePrefetch limit)
    return .ok ()

/-- Starts as many workers as a shallow queue needs. -/
def start : Program Services (Except Failure Unit) := do
  match ← setPrefetch table.baselinePrefetch with
  | .error failure => return .error failure
  | .ok () =>
    let _ ← Services.shared (.resize table.baselineWorkers.toNat)
    return .ok ()

/-- Tells the queue how many deliveries may be held, if it has not been told before. -/
def updatePrefetch (limit : UInt16) : Program Services (Except Failure Unit) := do
  if (← Services.shared .prefetch) = limit then return .ok () else setPrefetch limit

/-- Looks at the depth of the queue and sizes the pool for it. -/
def tick : Program Services (Except Failure PoolTarget) := do
  match ← Services.queue .depth with
  | .error failure => return .error failure
  | .ok depth =>
    let target := table.targetFor depth
    match ← updatePrefetch target.prefetch with
    | .error failure => return .error failure
    | .ok () =>
      let before ← Services.shared (.resize target.workers)
      .reportAll
        (LogEntry.poolResize? depth.toNat before target.workers target.prefetch.toNat).toList
      return .ok target

/-- Begins to look at the depth of the queue at regular intervals. -/
def watch : Program Services Unit := do
  let now ← .clock
  Services.shared (.launch (.monitor (now + table.monitorIntervalMs)))

/-- Looks at the depth of the queue at an instant. Without an interval nothing is looked at. -/
def turn (nextTick : Nat) : Program Services (Option Job) := do
  if table.monitorIntervalMs = 0 then return none
  else
    match ← (Program.pauseUntil nextTick).unlessStopped with
    | none => return none
    | some () =>
      if let .error failure ← tick table then .report (.failure "Pool monitor" failure.message)
      return some (.monitor (nextTick + table.monitorIntervalMs))

/-- Stops all workers and waits until they have given back what they hold. -/
def stop : Program Services Unit := do
  Services.shared (.giveSignal .pool)
  Services.shared (.join .worker)
  .report (.plain .info .pool "Worker pool stopped" [])

end WorkerPool

end SwapLedger
