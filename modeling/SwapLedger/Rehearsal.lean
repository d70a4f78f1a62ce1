import SwapLedger.Job.Turn
import SwapLedger.Shared

/-!
# Rehearsals

Services that follow a script: which calls fail, what the nodes know, what the block stream brings.
Behind the script stand a real queue in memory and a plain store. Programs can so be run, and looked
at, without any outer service.
-/

namespace SwapLedger

namespace Rehearsal

/-- How the calls of one kind end, one after another; past the end they succeed. -/
abbrev Script := List (Option Failure)

/-- A node that knows some blocks. -/
structure Node where
  blocks : List (Slot × Except Failure EncodedBlock)
  tip : Except Failure Slot
  /-- The instance is told to come to an end when this slot is asked for. -/
  stopsAt : Option Slot

/-- What a consumer is given instead of what the queue holds. -/
structure Parcel where
  delayMs : Nat
  /-- A payload, and whether it was handed out before. -/
  content : Except Failure (String × Bool)

/-- Connections of the block stream. -/
structure Stream where
  /-- Whether connecting fails at once while no connection is offered. -/
  deaf : Bool
  /-- The connection that is offered: what it brings, or nothing if it is refused. -/
  offered : Option (Option (List StreamEvent))
  /-- What the current connection still brings. -/
  coming : List StreamEvent

namespace Stream

/-- A stream that offers no connection yet. -/
def silent (deaf : Bool) : Stream := ⟨deaf, none, []⟩

/-- Answers the calls of the block stream. -/
def serve (stream : Stream) : (call : StreamCall) → Served Stream call.Answer
  | .connect =>
    match stream.offered with
    | none =>
      if stream.deaf then .answered (.error "IO error: Connection refused (os error 111)") stream
      else .pending none stream
    | some none => .answered (.error "IO error: connection reset") { stream with offered := none }
    | some (some events) => .answered (.ok ()) { stream with offered := none, coming := events }
  | .subscribe _ => .answered (.ok ()) stream
  | .pong _ => .answered (.ok ()) stream
  | .receive =>
    match stream.coming with
    | [] => .pending none stream
    | event :: rest => .answered event { stream with coming := rest }

end Stream

/-- Services that follow a script. -/
structure Stage where
  shared : Shared
  queue : MemoryQueue
  /-- What a consumer is given; nothing stands for what the queue holds. -/
  parcels : Option (List Parcel)
  /-- The tag of the next parcel. -/
  nextTag : Nat
  settlements : Script
  publications : Script
  reconnections : Script
  prefetches : Script
  depths : Script
  /-- The depth that the queue claims to have. -/
  claimedDepth : Option UInt64
  insertions : Script
  deletions : Script
  marks : Script
  stored : List SwapRecord
  /-- The blocks that are marked as processed, ascending. -/
  processed : List Slot
  nodes : List Node
  /-- What nodes answer, one call after another, instead of what they know. -/
  replies : Option (List (Except Failure Json))
  stream : Stream

namespace Stage

/-- Services that never fail and know nothing. -/
def empty (prefetch : UInt16) : Stage :=
  ⟨.initial prefetch, .empty prefetch, none, 1, [], [], [], [], [], none, [], [], [], [], [], [], none,
    .silent false⟩

variable (stage : Stage)

/-- Whether two swaps are the same up to the scales of their amounts. -/
def sameSwap (left right : SwapRecord) : Bool :=
  let normalized (swap : SwapRecord) : SwapRecord :=
    { swap with amountIn := swap.amountIn.normalize, amountOut := swap.amountOut.normalize }
  decide (normalized left = normalized right)

/-- Stores a swap unless the same is stored already. -/
def store (stored : List SwapRecord) (swap : SwapRecord) : List SwapRecord :=
  if stored.any (sameSwap swap) then stored else stored ++ [swap]

/-- Adds a slot to an ascending list. -/
def insertSlot (slot : Slot) : List Slot → List Slot
  | [] => [slot]
  | first :: rest =>
    if slot = first then first :: rest
    else if slot < first then slot :: first :: rest
    else first :: insertSlot slot rest

/-- Fails as scripted or does something. -/
def scripted {Answer : Type} (script : Script) (failed : Stage)
    (effect : Except Failure Answer × Stage) : Served Stage (Except Failure Answer) :=
  match script with
  | some failure :: _ => .answered (.error failure) failed
  | _ => .answered effect.1 effect.2

/-- The queue after a change, if the change is possible. -/
def changed (change : Except Failure MemoryQueue) : Except Failure Unit × Stage :=
  match change with
  | .ok queue => (.ok (), { stage with queue })
  | .error failure => (.error failure, stage)

/-- Settles a delivery; a parcel is settled by the script alone. -/
def settle (change : Except Failure MemoryQueue) : Served Stage (Except Failure Unit) :=
  let next := { stage with settlements := stage.settlements.tail }
  scripted stage.settlements next
    (if stage.parcels.isSome then (.ok (), next) else next.changed change)

/-- Gives a consumer what comes next. -/
def consume (moment : Moment) : Served Stage (Except Failure (Option Delivery)) :=
  if moment.stopped then .answered (.ok none) stage
  else
    match stage.parcels with
    | none =>
      match stage.queue.consume? with
      | none => .pending none stage
      | some (outcome, queue) => .answered (outcome.map some) { stage with queue }
    | some [] => .pending none stage
    | some (parcel :: rest) =>
      if moment.since + parcel.delayMs ≤ moment.now then
        match parcel.content with
        | .error failure => .answered (.error failure) { stage with parcels := some rest }
        | .ok (payload, redelivered) =>
          .answered (.ok (some ⟨stage.nextTag, payload, redelivered⟩))
            { stage with parcels := some rest, nextTag := stage.nextTag + 1 }
      else .pending (some (moment.since + parcel.delayMs)) stage

/-- Answers the calls of the queue. -/
def serveQueue (moment : Moment) : (call : QueueCall) → Served Stage call.Answer
  | .createTables => .answered (.ok ()) stage
  | .publish item =>
    let next := { stage with publications := stage.publications.tail }
    scripted stage.publications next
      (.ok (), { next with queue := next.queue.publish item.toPayload })
  | .consume => stage.consume moment
  | .acknowledge tag => stage.settle (stage.queue.acknowledge tag)
  | .reject tag requeue => stage.settle (stage.queue.reject tag requeue)
  | .depth =>
    let next := { stage with depths := stage.depths.tail }
    scripted stage.depths next
      (.ok (stage.claimedDepth.getD (.ofNat stage.queue.depth)), next)
  | .setPrefetch prefetch =>
    let next := { stage with prefetches := stage.prefetches.tail }
    scripted stage.prefetches next
      (.ok (), { next with queue := { next.queue with prefetch } })
  | .reconnect =>
    let next := { stage with reconnections := stage.reconnections.tail }
    scripted stage.reconnections next (.ok (), { next with queue := next.queue.reopen })

/-- Answers the calls of the store. -/
def serveStore : (call : StoreCall) → Served Stage call.Answer
  | .connect => .answered (.ok ()) stage
  | .createTables => .answered (.ok ()) stage
  | .markProcessed slot =>
    let next := { stage with marks := stage.marks.tail }
    scripted stage.marks next (.ok (), { next with processed := insertSlot slot next.processed })
  | .insertSwaps swaps =>
    let next := { stage with insertions := stage.insertions.tail }
    scripted stage.insertions next (.ok (), { next with stored := swaps.foldl store next.stored })
  | .deleteSwaps signature =>
    let next := { stage with deletions := stage.deletions.tail }
    let kept := stage.stored.filter (·.id != signature)
    scripted stage.deletions next
      (.ok (stage.stored.length - kept.length), { next with stored := kept })
  | .missingBlocks => .answered (.ok []) stage
  | .enqueueLookups _ => .answered (.ok ()) stage
  | .close => .answered () stage

/-- What a node knows about a call. -/
def Node.answer (node : Node) : (call : NodeCall) → call.Answer
  | .block slot =>
    match node.blocks.find? (·.1 == slot) with
    | some (_, block) => block
    | none => .error (.blockNotFound slot.toNat)
  | .tip => node.tip
  | .transaction _ => .error (.rpc "no such transaction")

/-- Reads a reply as the answer to a call. -/
def readReply (reply : Except Failure Json) : (call : NodeCall) → call.Answer :=
  let read {Answer : Type} (decode : Json → Option Answer) : Except Failure Answer := do
    match decode (← reply) with
    | some answer => return answer
    | none => .error (.serialization "")
  fun
  | .block _ => read (EncodedBlock.ofJson? .value)
  | .tip => read Json.u64?
  | .transaction _ => read ConfirmedTransaction.ofJson?

/-- What a call of a node that does not exist leads to. -/
def absent : (call : NodeCall) → call.Answer
  | .block _ => .error (.internal "no such node")
  | .tip => .error (.internal "no such node")
  | .transaction _ => .error (.internal "no such node")

/-- Whether a call of a node brings the instance to an end. -/
def stops (node : Node) : NodeCall → Bool
  | .block slot => node.stopsAt == some slot
  | _ => false

/-- Answers the calls of a node. -/
def serveNode (client : Nat) (call : NodeCall) : Served Stage call.Answer :=
  match stage.replies with
  | some (reply :: rest) => .answered (readReply reply call) { stage with replies := some rest }
  | some [] => .answered (absent call) stage
  | none =>
    match stage.nodes[client]? with
    | none => .answered (absent call) stage
    | some node =>
      .answered (Node.answer node call)
        (if stops node call then { stage with shared := stage.shared.giveSignal .service } else stage)

/-- Puts what became of a part into the whole. -/
def lift {Part Answer : Type} (put : Part → Stage) : Served Part Answer → Served Stage Answer
  | .answered answer part => .answered answer (put part)
  | .pending wake part => .pending wake (put part)

/-- Answers all calls. -/
def serve (moment : Moment) : (call : ServiceCall) → Served Stage call.Answer
  | .queue call => stage.serveQueue moment call
  | .store call => stage.serveStore call
  | .node client call => stage.serveNode client call
  | .stream call => lift ({ stage with stream := · }) (stage.stream.serve call)
  | .shared call => lift ({ stage with shared := · }) (stage.shared.serve moment call)

end Stage

/-- Scripted services as surroundings of programs, under a configuration. -/
def surroundings (configuration : Configuration) : Surroundings Services Stage where
  serve moment stage call := stage.serve moment call
  abandon _ stage := stage
  signals stage := stage.shared.signals
  launched stage := (stage.shared.launched, { stage with shared := { stage.shared with launched := [] } })
  ended kind stage := { stage with shared := stage.shared.ended kind }
  turn := Job.turn configuration

end Rehearsal

end SwapLedger
