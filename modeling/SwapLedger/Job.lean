import SwapLedger.Lookups
import SwapLedger.Transaction

/-!
# Jobs

What goes on in the background of a running instance. A job is done in turns: a turn is a program
that ends, and between two turns the job is a value that says how to go on.
-/

namespace SwapLedger

/-- Signals to come to an end. -/
inductive StopSignal where
  /-- To the whole instance. -/
  | service
  /-- To all workers and to the one who watches over them. -/
  | pool
  /-- To one worker. -/
  | worker (id : Nat)
  deriving DecidableEq

namespace StopSignal

/-- The signals that reach those who heed this one. -/
def sources : StopSignal → List StopSignal
  | .service => [.service]
  | .pool => [.pool, .service]
  | .worker id => [.worker id, .pool, .service]

/-- Whether some signal that has been given reaches those who heed this one. -/
def reachedBy (signal : StopSignal) (given : List StopSignal) : Bool :=
  signal.sources.any given.contains

end StopSignal

/-- Where the listener is with its connection. -/
inductive ListenerPhase where
  /-- Waits before it connects. -/
  | apart (delayMs : Nat)
  /-- Has asked for blocks and waits for the node's consent. -/
  | subscribing
  /-- Receives blocks. -/
  | streaming
  deriving DecidableEq

/-- A listener between two turns. -/
structure Listener where
  phase : ListenerPhase
  /-- Whether a connection has been lost since the last block came in. -/
  recovering : Bool
  deriving DecidableEq

/-- A writer of lookups between two turns. -/
structure LookupWriter where
  /-- What has not been written yet. -/
  batch : LookupBatch
  /-- When it will be written at the latest. -/
  nextFlush : Nat
  deriving DecidableEq

/-- A job between two turns. -/
inductive Job where
  | worker (id : Nat) (started : Bool)
  /-- Looks at the depth of the queue at an instant, and then again and again. -/
  | monitor (nextTick : Nat)
  /-- Fetches the blocks from one slot to another. -/
  | backfill (first last : Slot)
  | listener (state : Listener)
  | lookupWriter (state : LookupWriter)
  deriving DecidableEq

/-- The kinds of jobs. -/
inductive JobKind where
  | worker
  | monitor
  | backfill
  | listener
  | lookupWriter
  deriving DecidableEq

namespace Job

/-- The kind of a job. -/
def kind : Job → JobKind
  | .worker _ _ => .worker
  | .monitor _ => .monitor
  | .backfill _ _ => .backfill
  | .listener _ => .listener
  | .lookupWriter _ => .lookupWriter

/-- The signal that a job heeds. -/
def signal : Job → StopSignal
  | .worker id _ => .worker id
  | .monitor _ => .pool
  | _ => .service

end Job

end SwapLedger
