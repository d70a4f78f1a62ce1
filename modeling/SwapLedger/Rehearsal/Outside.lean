import SwapLedger.Credits
import SwapLedger.Deployment
import SwapLedger.Job.Turn
import SwapLedger.Rehearsal
import SwapLedger.Rehearsal.Server
import SwapLedger.Unreachable

/-!
# A scripted outer world

A database, nodes and a block stream that follow a script, for programs that have been deployed.
-/

namespace SwapLedger

namespace NodeReply

/-- The reply that holds a value under a name. -/
def holding (name : String) (value : Json) : NodeReply :=
  .answered 200 none
    (Json.object [("jsonrpc", .string "2.0"), (name, value), ("id", .ofNat 0)]).compact

end NodeReply

namespace Rehearsal

/-- Replies that are used up one by one, the last one staying. -/
abbrev Replies := List NodeReply

/-- What nodes reply. -/
inductive NodeBook where
  /-- One reply after another, whatever is asked; past the end connections are dropped. -/
  | sequence (replies : List NodeReply)
  /-- Replies by what is asked: blocks by slot, transactions by signature, and the newest slot. -/
  | contents (blocks transactions : List (String × Replies)) (tip : Replies)
  /-- Nobody is there. -/
  | nobody

namespace NodeBook

/-- The refusal of a slot that the script does not list. -/
def unlistedBlock : NodeReply :=
  .holding "error" (.object [("code", .integer (-32007)), ("message", .string "Slot skipped")])

/-- The reply for a transaction that the script does not list. -/
def unlistedTransaction : NodeReply := .holding "result" .null

/-- The next of some replies. -/
def next (unlisted : NodeReply) (replies : Replies) : NodeReply × Replies :=
  match replies with
  | [] => (unlisted, [])
  | [last] => (last, [last])
  | first :: rest => (first, rest)

/-- The next of the replies that are listed under a key. -/
def nextOf (unlisted : NodeReply) (listed : List (String × Replies)) (key : String) :
    NodeReply × List (String × Replies) :=
  match listed.find? (·.1 == key) with
  | none => (unlisted, listed)
  | some (_, replies) =>
    let (reply, rest) := next unlisted replies
    (reply, listed.map fun (other, replies) => (other, if other == key then rest else replies))

/-- What is asked for: the first parameter as a text. -/
def keyOf (request : NodeRequest) : String :=
  match request.params.head? with
  | some (.string text) => text
  | some json => json.compact
  | none => ""

/-- The reply to a request. -/
def reply (request : NodeRequest) : NodeBook → NodeReply × NodeBook
  | .nobody => (.unreachable, .nobody)
  | .sequence [] => (.dropped, .sequence [])
  | .sequence (first :: rest) => (first, .sequence rest)
  | .contents blocks transactions tip =>
    match request.method with
    | "getBlock" =>
      let (reply, blocks) := nextOf unlistedBlock blocks (keyOf request)
      (reply, .contents blocks transactions tip)
    | "getTransaction" =>
      let (reply, transactions) := nextOf unlistedTransaction transactions (keyOf request)
      (reply, .contents blocks transactions tip)
    | _ =>
      let (reply, tip) := next unlistedTransaction tip
      (reply, .contents blocks transactions tip)

end NodeBook

/-- A scripted outer world. -/
structure Outside where
  shared : Shared
  /-- The queue in memory. -/
  queue : MemoryQueue
  /-- The credits of the queues in the database. -/
  credits : List Credits
  server : Server
  /-- The nodes of this machine with the ports on which they listen. -/
  nodes : List (Nat × NodeBook)
  stream : Stream

namespace Outside

/-- An outer world with a database and nobody else. -/
def around (prefetch : UInt16) (server : Server) : Outside :=
  ⟨.initial prefetch, .empty prefetch, [⟨prefetch, 0⟩], server, [], .silent true⟩

variable (outside : Outside)

/-- Answers the calls that concern credits; an unknown queue has none. -/
def serveCredits (call : CreditCall) : Served Outside call.Answer :=
  match outside.credits[call.queue]? with
  | none => .answered (Unreachable.credits call) outside
  | some credits =>
    let (answer, credits) := credits.serve call
    .answered answer { outside with credits := outside.credits.set call.queue credits }

/-- Answers the calls of the queue in memory. -/
def serveQueue (moment : Moment) : (call : QueueCall) → Served Outside call.Answer
  | .createTables => .answered (.ok ()) outside
  | .publish item =>
    .answered (.ok ()) { outside with queue := outside.queue.publish item.toPayload }
  | .consume =>
    if moment.stopped then .answered (.ok none) outside
    else
      match outside.queue.consume? with
      | none => .pending none outside
      | some (outcome, queue) => .answered (outcome.map some) { outside with queue }
  | .acknowledge tag => settled (outside.queue.acknowledge tag)
  | .reject tag requeue => settled (outside.queue.reject tag requeue)
  | .depth => .answered (.ok (.ofNat outside.queue.depth)) outside
  | .setPrefetch prefetch =>
    .answered (.ok ()) { outside with queue := { outside.queue with prefetch } }
  | .reconnect => .answered (.ok ()) { outside with queue := outside.queue.reopen }
where
  /-- The world after the queue has changed, if it could. -/
  settled : Except Failure MemoryQueue → Served Outside (Except Failure Unit)
    | .ok queue => .answered (.ok ()) { outside with queue }
    | .error failure => .answered (.error failure) outside

/-- The port of this machine to which a URL leads, where nodes speak unencrypted. -/
def nodePort? (url : String) : Option Nat :=
  match Url.parse url with
  | .error _ => none
  | .ok url =>
    if url.scheme = "http" ∧ url.host.any (Route.ownNames.contains ·.toText) then
      some (url.port.getD 80)
    else none

/-- Answers a request to a node. -/
def serveNode (request : NodeRequest) : Served Outside NodeReply :=
  let port? := nodePort? request.url
  match outside.nodes.find? (some ·.1 == port?) with
  | none => .answered .unreachable outside
  | some (port, book) =>
    let (reply, book) := book.reply request
    .answered reply { outside with nodes := outside.nodes.map fun (other, known) =>
      (other, if other == port then book else known) }

/-- Puts what became of a part into the whole. -/
def lift {Part Answer : Type} (put : Part → Outside) :
    Served Part Answer → Served Outside Answer
  | .answered answer part => .answered answer (put part)
  | .pending wake part => .pending wake (put part)

/-- Answers all calls. -/
def serve (moment : Moment) : (call : WireCall) → Served Outside call.Answer
  | .database call => lift ({ outside with server := · }) (outside.server.serve moment call)
  | .credits call => outside.serveCredits call
  | .memoryQueue call => outside.serveQueue moment call
  | .node request => outside.serveNode request
  | .stream call => lift ({ outside with stream := · }) (outside.stream.serve call)
  | .shared call => lift ({ outside with shared := · }) (outside.shared.serve moment call)

end Outside

/-- A scripted outer world as surroundings of deployed programs. -/
def outerSurroundings (configuration : Configuration) : Surroundings Wire Outside where
  serve moment outside call := outside.serve moment call
  abandon task outside := { outside with server := outside.server.abandon task }
  signals outside := outside.shared.signals
  launched outside :=
    (outside.shared.launched, { outside with shared := { outside.shared with launched := [] } })
  ended kind outside := { outside with shared := outside.shared.ended kind }
  turn job := configuration.deploy (job.turn configuration)

end Rehearsal

end SwapLedger
