import SwapLedger.Json.Shape

/-!
# Scaling tables

How many workers to run for how deep a queue. The step with the greatest threshold that the depth
exceeds decides; where no threshold is exceeded, the baseline does.
-/

namespace SwapLedger

/-- A number of workers, and how many deliveries they may hold together. -/
structure PoolTarget where
  workers : Nat
  prefetch : UInt16
  deriving DecidableEq

/-- What to do when the queue is deeper than a threshold. -/
structure ScalingStep where
  minDepth : UInt64
  workers : UInt64
  prefetch : UInt16
  deriving DecidableEq

/-- How a pool of workers is sized. -/
structure ScalingTable where
  baselineWorkers : UInt64
  baselinePrefetch : UInt16
  /-- How often the depth of the queue is looked at. -/
  monitorIntervalSecs : UInt64
  steps : List ScalingStep
  deriving DecidableEq

namespace ScalingTable

/-- The sizes used where none are configured. -/
def standard : ScalingTable :=
  ⟨500, 500, 10, [⟨1500, 2500, 2000⟩, ⟨1000, 2000, 1500⟩, ⟨750, 1500, 1000⟩, ⟨500, 1000, 750⟩]⟩

variable (table : ScalingTable)

/-- The size for a shallow queue. -/
def baseline : PoolTarget := ⟨table.baselineWorkers.toNat, table.baselinePrefetch⟩

/-- The steps from the deepest threshold down; equal thresholds stay in order. -/
def descending : List ScalingStep :=
  table.steps.mergeSort fun left right => decide (right.minDepth ≤ left.minDepth)

/-- The size for a depth. -/
def targetFor (depth : UInt64) : PoolTarget :=
  match table.descending.find? fun step => decide (step.minDepth < depth) with
  | none => table.baseline
  | some step => ⟨step.workers.toNat, step.prefetch⟩

/-- How often the depth of the queue is looked at. -/
def monitorIntervalMs : Nat := table.monitorIntervalSecs.toNat * 1000

/-- The fields of a table, in order. -/
def fieldNames : List String :=
  ["baseline_workers", "baseline_prefetch", "monitor_interval_secs", "steps"]

end ScalingTable

namespace ScalingStep

/-- The fields of a step, in order. -/
def fieldNames : List String := ["min_depth", "workers", "prefetch"]

/-- Reads a step. -/
def ofJson? (json : Json) : Option ScalingStep := do
  let fields ← json.fields? fieldNames
  return ⟨← fields.required "min_depth" Json.u64?, ← fields.required "workers" Json.u64?,
    ← fields.required "prefetch" Json.u16?⟩

/-- Writes a step. -/
def toJson (step : ScalingStep) : Json :=
  .object [("min_depth", .ofNat step.minDepth.toNat), ("workers", .ofNat step.workers.toNat),
    ("prefetch", .ofNat step.prefetch.toNat)]

end ScalingStep

namespace ScalingTable

/-- Reads a table. -/
def ofJson? (json : Json) : Option ScalingTable := do
  let fields ← json.fields? fieldNames
  return ⟨← fields.required "baseline_workers" Json.u64?,
    ← fields.required "baseline_prefetch" Json.u16?,
    ← fields.required "monitor_interval_secs" Json.u64?,
    ← fields.required "steps" (Json.list? ScalingStep.ofJson?)⟩

/-- Writes a table. -/
def toJson (table : ScalingTable) : Json :=
  .object [
    ("baseline_workers", .ofNat table.baselineWorkers.toNat),
    ("baseline_prefetch", .ofNat table.baselinePrefetch.toNat),
    ("monitor_interval_secs", .ofNat table.monitorIntervalSecs.toNat),
    ("steps", .ofList ScalingStep.toJson table.steps)]

end ScalingTable

end SwapLedger
