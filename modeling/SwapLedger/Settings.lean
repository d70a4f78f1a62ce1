import SwapLedger.Failure
import SwapLedger.RetryPolicy
import SwapLedger.ScalingTable

/-!
# Settings

All that can be chosen about a running instance. Settings are drafted setting by setting, and a
draft becomes a configuration if nothing is missing from it.
-/

namespace SwapLedger

/-- How settled a block has to be before the node shows it. -/
inductive Commitment where
  | processed
  | confirmed
  | finalized
  deriving DecidableEq

namespace Commitment

/-- All levels. -/
def all : List Commitment := [.processed, .confirmed, .finalized]

/-- The name of the level. -/
def label : Commitment → String
  | .processed => "processed"
  | .confirmed => "confirmed"
  | .finalized => "finalized"

/-- The level with a name. -/
def ofLabel? (label : String) : Option Commitment := all.find? fun level => level.label == label

end Commitment

/-- When the listener connects, and what it asks for. -/
structure ListenerSettings where
  initialDelayMs : UInt64
  reconnectDelayMs : UInt64
  commitment : Commitment
  deriving DecidableEq

namespace ListenerSettings

/-- The settings used where none are chosen. -/
def standard : ListenerSettings := ⟨1000, 5000, .confirmed⟩

end ListenerSettings

/-- Where the work queue is kept. -/
inductive QueueBackend where
  | postgres
  | memory
  deriving DecidableEq

namespace QueueBackend

/-- All places. -/
def all : List QueueBackend := [.postgres, .memory]

/-- The name of the place. -/
def label : QueueBackend → String
  | .postgres => "postgres"
  | .memory => "memory"

/-- The place with a name. -/
def ofLabel? (label : String) : Option QueueBackend :=
  all.find? fun backend => backend.label == label

end QueueBackend

/-- How the work queue is used. -/
structure QueueSettings where
  backend : QueueBackend
  /-- Queues of different names share one table. -/
  name : String
  /-- How long a claimed item stays hidden. -/
  visibilityTimeoutSecs : UInt64
  /-- How long to wait before an empty queue is asked again. -/
  pollIntervalMs : UInt64
  deriving DecidableEq

namespace QueueSettings

/-- The settings used where none are chosen. -/
def standard : QueueSettings := ⟨.postgres, "swap_blocks", 300, 250⟩

end QueueSettings

/-- What is logged, and how. -/
structure TelemetrySettings where
  logFilter : String
  colors : Bool
  showTarget : Bool
  showThreadIds : Bool
  deriving DecidableEq

namespace TelemetrySettings

/-- The settings used where none are chosen. -/
def standard : TelemetrySettings := ⟨"info", true, true, false⟩

end TelemetrySettings

/-- A complete choice of settings. -/
structure Configuration where
  /-- The nodes; backfills take turns among them. -/
  rpcUrls : List String
  /-- Where blocks are streamed from. -/
  wsUrl : String
  databaseUrl : String
  commitment : Commitment
  pool : ScalingTable
  nodeRetry : RetryPolicy
  reconnectRetry : RetryPolicy
  insertRetry : RetryPolicy
  listener : ListenerSettings
  queue : QueueSettings
  telemetry : TelemetrySettings
  deriving DecidableEq

namespace Configuration

variable (configuration : Configuration)

/-- The first node. -/
def rpcUrl : String := configuration.rpcUrls.headD ""

/-- Refuses an operation whose work items would be lost with the process. -/
def requireDurableQueue (operation : String) : Except Failure Unit :=
  match configuration.queue.backend with
  | .postgres => .ok ()
  | .memory => .error (.configuration
      (operation ++ " publishes to the work queue and needs QUEUE_BACKEND=postgres"))

end Configuration

/-- Settings chosen so far. -/
structure Draft where
  rpcUrls : List String
  wsUrl : Option String
  databaseUrl : Option String
  commitment : Commitment
  pool : ScalingTable
  nodeRetry : RetryPolicy
  reconnectRetry : RetryPolicy
  insertRetry : RetryPolicy
  listener : ListenerSettings
  queue : QueueSettings
  telemetry : TelemetrySettings

namespace Draft

/-- Nothing chosen yet. -/
def empty : Draft :=
  ⟨[], none, none, .confirmed, .standard, .node, .reconnect, .insert, .standard, .standard, .standard⟩

variable (draft : Draft)

/-- Adds a node. -/
def withRpc (url : String) : Draft := { draft with rpcUrls := draft.rpcUrls ++ [url] }

/-- Chooses the commitment, also of the block stream. -/
def withCommitment (commitment : Commitment) : Draft :=
  { draft with commitment, listener := { draft.listener with commitment } }

/-- Chooses the number of workers for a shallow queue. -/
def withBaselineWorkers (workers : UInt64) : Draft :=
  { draft with pool := { draft.pool with baselineWorkers := workers } }

/-- Chooses the number of deliveries held for a shallow queue. -/
def withBaselinePrefetch (prefetch : UInt16) : Draft :=
  { draft with pool := { draft.pool with baselinePrefetch := prefetch } }

/-- Chooses how often the depth of the queue is looked at. -/
def withMonitorInterval (seconds : UInt64) : Draft :=
  { draft with pool := { draft.pool with monitorIntervalSecs := seconds } }

/-- Chooses the sizes for deep queues. -/
def withSteps (steps : List ScalingStep) : Draft :=
  { draft with pool := { draft.pool with steps } }

/-- Chooses where the queue is kept. -/
def withQueueBackend (backend : QueueBackend) : Draft :=
  { draft with queue := { draft.queue with backend } }

/-- Chooses the name of the queue. -/
def withQueueName (name : String) : Draft := { draft with queue := { draft.queue with name } }

/-- Chooses what is logged. -/
def withLogFilter (filter : String) : Draft :=
  { draft with telemetry := { draft.telemetry with logFilter := filter } }

/-- The configuration, if nothing is missing. -/
def complete : Except Failure Configuration :=
  if draft.rpcUrls.isEmpty then .error (.configuration "at least one RPC URL is required")
  else
    match draft.wsUrl, draft.databaseUrl with
    | none, _ => .error (.configuration "WebSocket URL is required")
    | _, none => .error (.configuration "database URL is required")
    | some wsUrl, some databaseUrl =>
      if draft.pool.baselineWorkers = 0 then
        .error (.configuration "baseline worker count must be positive")
      else
        .ok ⟨draft.rpcUrls, wsUrl, databaseUrl, draft.commitment, draft.pool, draft.nodeRetry,
          draft.reconnectRetry, draft.insertRetry, draft.listener, draft.queue, draft.telemetry⟩

end Draft

end SwapLedger
