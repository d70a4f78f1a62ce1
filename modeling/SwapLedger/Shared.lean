import SwapLedger.Broadcast
import SwapLedger.PoolMembers
import SwapLedger.Schedule
import SwapLedger.Services

/-!
# What the parts of an instance share

The state behind the calls that concern no outer service: the rotation among the nodes, the members
of the pool, the signals, the channels for swaps and lookups, and the jobs that are running.
-/

namespace SwapLedger

/-- What the parts of a running instance share. -/
structure Shared where
  /-- The next number of the rotation. It is counted without a bound, where the machine has words
  and starts over after the greatest. -/
  rotation : Nat
  members : PoolMembers
  /-- The prefetch that was set last. -/
  prefetch : UInt16
  /-- The signals that have been given. -/
  signals : List StopSignal
  /-- Whether some worker restores the connection to the queue. -/
  reconnecting : Bool
  /-- The greatest slot that the listener has dealt with, above zero. -/
  lastProcessed : Option Slot
  swaps : Broadcast (List SwapRecord)
  lookups : Lookups
  /-- The kinds of the jobs that are running. -/
  running : List JobKind
  /-- The jobs that have been launched and not taken up. -/
  launched : List Job
  /-- Whether the user has interrupted. -/
  interrupted : Bool

namespace Shared

/-- How many broadcasts are kept. -/
def broadcastCapacity : Nat := 1024

/-- The state of an instance at its start. -/
def initial (prefetch : UInt16) : Shared :=
  ⟨0, .empty, prefetch, [], false, none, .withCapacity broadcastCapacity, .empty, [], [], false⟩

variable (shared : Shared)

/-- Launches a job. -/
def launch (job : Job) : Shared :=
  { shared with launched := shared.launched ++ [job], running := job.kind :: shared.running }

/-- Starts or stops workers until there are that many. -/
def resize (workers : Nat) : Shared :=
  let joining := shared.members.joining workers
  let leaving := shared.members.leaving workers
  (joining.map (Job.worker · false)).foldl launch
    { shared with
      members := shared.members.resize workers,
      signals := leaving.map .worker ++ shared.signals }

/-- Remembers a slot if it is the greatest so far. -/
def noteProcessed (slot : Slot) : Shared :=
  let greatest := max slot (shared.lastProcessed.getD 0)
  { shared with lastProcessed := if greatest = 0 then none else some greatest }

/-- Gives a signal. -/
def giveSignal (signal : StopSignal) : Shared :=
  { shared with signals := signal :: shared.signals }

/-- A job of a kind has ended. -/
def ended (kind : JobKind) : Shared := { shared with running := shared.running.erase kind }

/-- What comes next for a writer of lookups. -/
def nextLookup (moment : Moment) (instant : Nat) : Served Shared LookupEvent :=
  if moment.stopped then .answered .ended shared
  else
    match shared.lookups.pending with
    | address :: rest =>
      .answered (.address address)
        { shared with lookups := { shared.lookups with pending := rest } }
    | [] =>
      if shared.lookups.sendable = false then .answered .ended shared
      else if instant ≤ moment.now then .answered .due shared
      else .pending (some instant) shared

/-- Answers the calls that concern what is shared. -/
def serve (moment : Moment) : (call : SharedCall) → Served Shared call.Answer
  | .startRotation => .answered () { shared with rotation := 0 }
  | .takeTurn => .answered shared.rotation { shared with rotation := shared.rotation + 1 }
  | .prefetch => .answered shared.prefetch shared
  | .notePrefetch limit => .answered () { shared with prefetch := limit }
  | .resize workers => .answered shared.members.size (shared.resize workers)
  | .leave worker => .answered () { shared with members := shared.members.leave worker }
  | .lockReconnect =>
    if shared.reconnecting then .pending none shared
    else .answered () { shared with reconnecting := true }
  | .unlockReconnect => .answered () { shared with reconnecting := false }
  | .lastProcessed => .answered shared.lastProcessed shared
  | .noteProcessed slot => .answered () (shared.noteProcessed slot)
  | .broadcast swaps =>
    .answered () (if swaps.isEmpty then shared
      else { shared with swaps := shared.swaps.send swaps })
  | .addLookup address =>
    .answered (shared.lookups.loses address)
      { shared with lookups := shared.lookups.add address }
  | .nextLookup instant => shared.nextLookup moment instant
  | .takeLookups =>
    .answered shared.lookups.batch { shared with lookups := shared.lookups.drained }
  | .abandonLookups => .answered () { shared with lookups := shared.lookups.abandoned }
  | .launch job => .answered () (shared.launch job)
  | .join kind => if shared.running.contains kind then .pending none shared else .answered () shared
  | .giveSignal signal => .answered () (shared.giveSignal signal)
  | .awaitShutdown =>
    if shared.interrupted then .answered true shared
    else if shared.signals.contains .service then .answered false shared
    else .pending none shared

end Shared

end SwapLedger
