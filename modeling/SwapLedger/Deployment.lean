import SwapLedger.NodeClient
import SwapLedger.NodeRpc
import SwapLedger.TableQueue

/-!
# Deployments

How a configuration provides the services by means of the wire: the queue in memory or in the
database, the store in the database, and nodes over HTTP, whose calls are repeated.
-/

namespace SwapLedger

namespace Configuration

variable (configuration : Configuration)

/-- The queue in the database. -/
def tableQueue : TableQueue := ⟨0, configuration.queue⟩

/-- The URL of the node of a number. -/
def nodeUrl (client : Nat) : String := configuration.rpcUrls.getD client ""

/-- Provides the queue. -/
def provideQueue (call : QueueCall) : Program Wire call.Answer :=
  match configuration.queue.backend with
  | .postgres => configuration.tableQueue.serve call
  | .memory => Wire.memoryQueue call

/-- Provides all services. -/
def provide : (call : ServiceCall) → Program Wire call.Answer
  | .queue call => configuration.provideQueue call
  | .store call => SwapStore.serve configuration.databaseUrl SwapStore.standardConnections call
  | .node client call =>
    NodeClient.call configuration.nodeRetry
      (NodeRpc.call (configuration.nodeUrl client) configuration.commitment) call
  | .stream call => Wire.stream call
  | .shared call => Wire.shared call

/-- A program that is run by means of the wire. -/
def deploy {Result : Type} (program : Program Services Result) : Program Wire Result :=
  program.lower configuration.provide

end Configuration

end SwapLedger
