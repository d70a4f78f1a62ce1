import SwapLedger.Backfill
import SwapLedger.Listener
import SwapLedger.LookupWriter
import SwapLedger.Worker
import SwapLedger.WorkerPool

/-!
# Turns of jobs
-/

namespace SwapLedger

namespace Configuration

/-- The worker of an id. -/
def worker (configuration : Configuration) (id : Nat) : Worker :=
  ⟨id, .standard, configuration.insertRetry, configuration.reconnectRetry⟩

end Configuration

namespace Job

/-- One turn of a job; it answers how the job goes on, if it does. -/
def turn (configuration : Configuration) : Job → Program Services (Option Job)
  | .worker id started => (configuration.worker id).turn started
  | .monitor nextTick => WorkerPool.turn configuration.pool nextTick
  | .backfill first last => do
    Backfill.runAlone configuration.rpcUrls.length first last
    return none
  | .listener state => state.turn configuration
  | .lookupWriter state => state.turn

end Job

end SwapLedger
