import SwapLedger.Failure.Json
import SwapLedger.Rehearsal

/-!
# Journals of rehearsals

What is noted of a rehearsal: the calls of the store and the queue that change something, and the
calls of the nodes, each under a short name and with the instant at which it was made.
-/

namespace SwapLedger

namespace WorkItem

/-- A work item in short: its block, its time and its signatures. -/
def summary (item : WorkItem) : Json :=
  .array [.ofNat item.blockNumber.toNat, .integer item.blockTime.toInt,
    .ofList .string item.signatures]

/-- The order of blocks, and within a block of the first signatures. -/
def precedes (left right : WorkItem) : Bool :=
  decide (left.blockNumber < right.blockNumber) ||
    left.blockNumber == right.blockNumber &&
      decide (left.signatures.headD "" ≤ right.signatures.headD "")

end WorkItem

namespace Delivery

/-- A delivery in short: its tag, the block of its item, and whether it was handed out before. -/
def toJson (delivery : Delivery) : Json :=
  let block := (WorkItem.ofPayload? delivery.payload).map (·.blockNumber.toNat)
  .object [("tag", .ofNat delivery.tag), ("block", .ofOption .ofNat block),
    ("redelivered", .bool delivery.redelivered)]

end Delivery

namespace BackfillReport

/-- The counts of a backfill. -/
def toJson (report : BackfillReport) : Json :=
  .object [("fetched", .ofNat report.fetched), ("skipped", .ofNat report.skipped),
    ("failed", .ofNat report.failed), ("published", .ofNat report.published)]

end BackfillReport

namespace ConfirmedTransaction

/-- A confirmed transaction with its encoding undone, as far as that is possible. -/
def toJson (confirmed : ConfirmedTransaction) : Json :=
  .object [("slot", .ofNat confirmed.slot.toNat),
    ("block_time", .ofOption (fun time => .integer time.toInt) confirmed.time),
    ("raw", match confirmed.transaction.decode with
      | .ok transaction => transaction.toJson
      | .error failure => failure.toJson)]

end ConfirmedTransaction

namespace Rehearsal

/-- A list that starts with a name. -/
def named (name : String) (arguments : List Json) : Json := .array (.string name :: arguments)

/-- How a call is noted, if it is. -/
def note? : ServiceCall → Option Json
  | .store (.insertSwaps swaps) => some (named "insert" [.ofNat swaps.length])
  | .store (.deleteSwaps signature) => some (named "delete" [.string signature])
  | .store (.markProcessed slot) => some (named "mark" [.ofNat slot.toNat])
  | .queue (.acknowledge tag) => some (named "ack" [.ofNat tag])
  | .queue (.reject tag requeue) => some (named "nack" [.ofNat tag, .bool requeue])
  | .queue (.setPrefetch limit) => some (named "set_prefetch" [.ofNat limit.toNat])
  | .queue .reconnect => some (named "reconnect" [])
  | .node client (.block slot) => some (named "get_block" [.ofNat client, .ofNat slot.toNat])
  | .node client .tip => some (named "get_slot" [.ofNat client])
  | _ => none

/-- How a call of a worker is noted, if it is: what is consumed and that the worker stops as well. -/
def workerNote? : (call : ServiceCall) × call.Answer → Option Json
  | ⟨.queue .consume, .ok none⟩ => none
  | ⟨.queue .consume, _⟩ => some (named "consume" [])
  | ⟨.shared (.giveSignal _), _⟩ => some (.string "cancel")
  | ⟨.shared (.leave _), _⟩ => some (.string "stopped")
  | ⟨call, _⟩ => note? call

/-- How a call of the block stream is noted, if it is. -/
def streamNote? : (call : ServiceCall) × call.Answer → Option Json
  | ⟨.stream (.subscribe request), _⟩ => some (named "subscribed" [request])
  | ⟨.stream .connect, .error _⟩ => some (.string "refused")
  | _ => none

/-- How a call of a node is noted, if it is. -/
def nodeNote? : (call : ServiceCall) × call.Answer → Option Json
  | ⟨.node client call, _⟩ => note? (.node client call)
  | _ => none

/-- How a call of the only node is noted, if it is. -/
def soleNodeNote? : (call : ServiceCall) × call.Answer → Option Json
  | ⟨.node _ (.block slot), _⟩ => some (named "get_block" [.ofNat slot.toNat])
  | ⟨.node _ .tip, _⟩ => some (named "get_slot" [])
  | ⟨.node _ (.transaction signature), _⟩ => some (named "get_transaction" [.string signature])
  | _ => none

/-- A note with its instant. -/
def timed (note : Nat × Json) : Json := .array [.ofNat note.1, note.2]

/-- A run of programs among scripted services. -/
abbrev Run := Schedule Services Stage Json

namespace Run

/-- A run in which nothing has happened. -/
def start (stage : Stage) : Run := Schedule.initial stage

variable (run : Run)

/-- What is noted of the calls, in a way of noting them. -/
def notes (note? : (call : ServiceCall) × call.Answer → Option Json) : List (Nat × Json) :=
  run.calls.filterMap fun (instant, call) => (note? call).map (instant, ·)

/-- What is noted of the calls without the instants. -/
def bareNotes (note? : (call : ServiceCall) × call.Answer → Option Json) : Json :=
  .ofList (·.2) (run.notes note?)

/-- What is noted of the calls with the instants. -/
def timedNotes (note? : (call : ServiceCall) × call.Answer → Option Json) : Json :=
  .ofList timed (run.notes note?)

/-- What is noted of the calls that change something, with the instants. -/
def journal : Json := run.timedNotes fun call => note? call.1

/-- The items that wait in the queue. -/
def waiting : List WorkItem :=
  run.world.queue.ready.filterMap fun item => WorkItem.ofPayload? item.payload

/-- The run with its journal begun anew. -/
def renewed : Run := { run with history := [] }

/-- The run with its queue emptied as well. -/
def cleared : Run :=
  let stage := run.world
  { run.renewed with world := { stage with queue := { stage.queue with ready := [] } } }

/-- The run with a change of its services. -/
def changed (change : Stage → Stage) : Run := { run with world := change run.world }

end Run

end Rehearsal

end SwapLedger
