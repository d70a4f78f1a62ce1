import SwapLedger.Backfill
import SwapLedger.Listener
import SwapLedger.LookupWriter
import SwapLedger.Signature
import SwapLedger.Worker
import SwapLedger.WorkerPool

/-!
# The indexer

What an instance does as a whole. It can run until it is told to stop: a listener and backfills
publish work items, a pool of workers turns them into swaps, and a writer notes which metadata is
wanted. It can also backfill a range of blocks for another instance to work on, or find the swaps of
a single transaction anew.
-/

namespace SwapLedger

namespace Indexer

/-- Connects to the store and creates the tables that do not exist yet. -/
def prepare : Program Services (Except Failure Unit) :=
  (Services.store .connect).onSuccess fun () =>
    (Services.store .createTables).onSuccess fun () => Services.queue .createTables

/-- Launches a backfill for each range. -/
def launchBackfills : List SlotRange → Program Services Unit
  | [] => return ()
  | range :: rest => do
    .report (.plain .info .indexer "Recovering missing blocks"
      [("from", .number range.first.toNat), ("to", .number range.last.toNat)])
    Services.shared (.launch (.backfill range.first range.last))
    launchBackfills rest

/-- Launches backfills for the blocks that are missing from the ledger. -/
def recoverGaps : Program Services Unit := do
  match ← Services.store .missingBlocks with
  | .error failure => .report (.failure "Startup gap scan" failure.message)
  | .ok missing => launchBackfills (SlotRange.group missing)

/-- Waits until the instance is to stop, and brings its parts to an end one after another. -/
def finish : Program Services Unit := do
  if ← Services.shared .awaitShutdown then
    .report (.plain .info .indexer "Shutdown requested" [])
  Services.shared (.giveSignal .service)
  Services.shared (.join .listener)
  Services.shared (.join .monitor)
  WorkerPool.stop
  Services.shared (.join .lookupWriter)
  Services.store .close
  .report (.plain .info .indexer "Swap indexer stopped" [])

variable (configuration : Configuration)

/-- Runs all parts until the instance is told to stop. -/
def start : Program Services (Except Failure Unit) := do
  .report (.startup configuration.rpcUrls configuration.wsUrl
    configuration.pool.baselineWorkers.toNat)
  LookupWriter.begin
  (WorkerPool.start configuration.pool).onSuccess fun () => do
    WorkerPool.watch configuration.pool
    (Backfill.prepare configuration.rpcUrls.length).onSuccess fun () => do
      recoverGaps
      Services.shared (.launch (.listener (Listener.initial configuration)))
      finish
      return .ok ()

/-- Publishes the blocks from the first to the last slot as work items, for whoever works on the
queue. -/
def backfill (first last : Slot) : Program Services (Except Failure BackfillReport) :=
  match configuration.requireDurableQueue "backfill" with
  | .error failure => return .error failure
  | .ok () =>
    (Backfill.prepare configuration.rpcUrls.length).onSuccess fun () =>
      Backfill.run configuration.rpcUrls.length first last

/-- An entry about a transaction whose stored swaps have been removed. -/
def replacementEntry (message signature : String) (deleted : Nat)
    (fields : List (String × LogValue)) : LogEntry :=
  .plain .info .indexer message
    ([("signature", .quoted signature), ("deleted", .number deleted)] ++ fields)

/-- Writes down the lookups that are waiting, if there are any. -/
def flushLookups : Program Services (Except Failure Unit) := do
  let pending ← Services.shared .takeLookups
  if pending.isEmpty then return .ok () else Services.store (.enqueueLookups pending)

/-- Stores the swaps of a transaction whose former swaps have been removed. -/
def storeAnew (signature : String) (deleted : Nat) (confirmed : ConfirmedTransaction) :
    Program Services (Except Failure (List SwapRecord)) := do
  if confirmed.transaction.succeeded = false then
    .report (replacementEntry "Transaction failed on chain, no swaps" signature deleted [])
    return .ok []
  else
    match confirmed.transaction.decode with
    | .error failure => return .error failure
    | .ok transaction =>
      let swaps := transaction.swaps .standard (confirmed.time.getD 0) confirmed.slot
      .reportAll (transaction.detectionLog .standard confirmed.slot swaps)
      Worker.addLookups (swaps.flatMap (·.lookups))
      (Services.store (.insertSwaps swaps)).onSuccess fun () =>
        flushLookups.onSuccess fun () => do
          .report (replacementEntry "Transaction reprocessed" signature deleted
            [("inserted", .number swaps.length)])
          return .ok swaps

/-- Finds the swaps of a transaction anew and replaces those that are stored. -/
def reprocess (signature : String) : Program Services (Except Failure (List SwapRecord)) :=
  match Signature.check signature with
  | .error failure => return .error failure
  | .ok () =>
    if configuration.rpcUrls.isEmpty then
      return .error (.configuration "no RPC URL configured")
    else
      (Services.node 0 (.transaction signature)).onSuccess fun confirmed =>
        (Services.store (.deleteSwaps signature)).onSuccess fun deleted =>
          storeAnew signature deleted confirmed

end Indexer

end SwapLedger
