import SwapLedger.Binary64.Shortest
import SwapLedger.Settings

/-!
# Settings as JSON
-/

namespace SwapLedger

namespace Growth

/-- Writes how waits grow. -/
def toJson : Growth → Json
  | .fixed => .string "Fixed"
  | .linear => .string "Linear"
  | .exponential multiplier =>
    .object [("Exponential", .object [("multiplier", .real multiplier)])]

end Growth

namespace RetryPolicy

/-- Writes a policy, given how its growth is written. -/
def toJsonWith (growth : Growth → Json) (policy : RetryPolicy) : Json :=
  .object [
    ("max_retries", .ofNat policy.maxRetries.toNat),
    ("initial_backoff_ms", .ofNat policy.initialDelayMs.toNat),
    ("strategy", growth policy.growth), ("max_backoff_ms", .ofNat policy.maxDelayMs.toNat),
    ("jitter", .bool policy.jitter)]

/-- Writes a policy. -/
def toJson (policy : RetryPolicy) : Json := policy.toJsonWith Growth.toJson

end RetryPolicy

namespace Commitment

/-- Reads a level. -/
def ofJson? : Json → Option Commitment := Json.choice? (all.map fun level => (level.label, level))

/-- Writes a level. -/
def toJson (level : Commitment) : Json := .string level.label

end Commitment

namespace QueueBackend

/-- Reads a place. -/
def ofJson? : Json → Option QueueBackend :=
  Json.choice? (all.map fun backend => (backend.label, backend))

end QueueBackend

namespace ListenerSettings

/-- The fields of the listener's settings, in order. -/
def fieldNames : List String := ["initial_delay_ms", "reconnect_delay_ms", "commitment"]

/-- Reads the listener's settings. -/
def ofJson? (json : Json) : Option ListenerSettings := do
  let fields ← json.fields? fieldNames
  return ⟨← fields.required "initial_delay_ms" Json.u64?,
    ← fields.required "reconnect_delay_ms" Json.u64?,
    ← fields.required "commitment" Commitment.ofJson?⟩

/-- Writes the listener's settings. -/
def toJson (settings : ListenerSettings) : Json :=
  .object [
    ("initial_delay_ms", .ofNat settings.initialDelayMs.toNat),
    ("reconnect_delay_ms", .ofNat settings.reconnectDelayMs.toNat),
    ("commitment", settings.commitment.toJson)]

end ListenerSettings

namespace QueueSettings

/-- The fields of the queue's settings, in order. -/
def fieldNames : List String := ["backend", "name", "visibility_timeout_secs", "poll_interval_ms"]

/-- Reads the queue's settings. -/
def ofJson? (json : Json) : Option QueueSettings := do
  let fields ← json.fields? fieldNames
  return ⟨← fields.required "backend" QueueBackend.ofJson?, ← fields.required "name" Json.string?,
    ← fields.required "visibility_timeout_secs" Json.u64?,
    ← fields.required "poll_interval_ms" Json.u64?⟩

/-- Writes the queue's settings. -/
def toJson (settings : QueueSettings) : Json :=
  .object [
    ("backend", .string settings.backend.label), ("name", .string settings.name),
    ("visibility_timeout_secs", .ofNat settings.visibilityTimeoutSecs.toNat),
    ("poll_interval_ms", .ofNat settings.pollIntervalMs.toNat)]

end QueueSettings

namespace RetryPolicy

/-- Writes a policy with its multiplier as a text. -/
def toPlainJson : RetryPolicy → Json :=
  toJsonWith fun
    | .exponential multiplier => .array [.string "Exponential", .string multiplier.plainText]
    | growth => growth.toJson

end RetryPolicy

namespace TelemetrySettings

/-- Writes the settings of the log. -/
def toJson (settings : TelemetrySettings) : Json :=
  .object [
    ("log_filter", .string settings.logFilter), ("enable_console_colors", .bool settings.colors),
    ("show_target", .bool settings.showTarget), ("show_thread_ids", .bool settings.showThreadIds)]

end TelemetrySettings

namespace Configuration

/-- Writes all settings. -/
def toJson (configuration : Configuration) : Json :=
  .object [
    ("rpc_urls", .ofList .string configuration.rpcUrls), ("rpc_url", .string configuration.rpcUrl),
    ("ws_url", .string configuration.wsUrl), ("database_url", .string configuration.databaseUrl),
    ("commitment", configuration.commitment.toJson), ("pool", configuration.pool.toJson),
    ("node_retry", configuration.nodeRetry.toPlainJson),
    ("reconnect_retry", configuration.reconnectRetry.toPlainJson),
    ("insert_retry", configuration.insertRetry.toPlainJson),
    ("listener", configuration.listener.toJson), ("queue", configuration.queue.toJson),
    ("telemetry", configuration.telemetry.toJson)]

end Configuration

namespace Draft

/-- Chooses a setting that is given by its name and value. -/
def set? (draft : Draft) : Json → Option Draft
  | .array [.string setter, value] => do
    match setter with
    | "rpc" => return draft.withRpc (← value.string?)
    | "rpc_urls" => return { draft with rpcUrls := ← value.list? Json.string? }
    | "ws" => return { draft with wsUrl := ← value.string? }
    | "database" => return { draft with databaseUrl := ← value.string? }
    | "commitment" => return draft.withCommitment (← Commitment.ofJson? value)
    | "baseline_workers" => return draft.withBaselineWorkers (← value.u64?)
    | "baseline_prefetch" => return draft.withBaselinePrefetch (← value.u16?)
    | "monitor_interval" => return draft.withMonitorInterval (← value.u64?)
    | "scaling_steps" => return draft.withSteps (← value.list? ScalingStep.ofJson?)
    | "node_retry" => return { draft with nodeRetry := ← RetryPolicy.ofJson? value }
    | "reconnect_retry" => return { draft with reconnectRetry := ← RetryPolicy.ofJson? value }
    | "insert_retry" => return { draft with insertRetry := ← RetryPolicy.ofJson? value }
    | "listener" => return { draft with listener := ← ListenerSettings.ofJson? value }
    | "queue_backend" => return draft.withQueueBackend (← QueueBackend.ofJson? value)
    | "queue_name" => return draft.withQueueName (← value.string?)
    | "log_filter" => return draft.withLogFilter (← value.string?)
    | _ => none
  | _ => none

end Draft

end SwapLedger
