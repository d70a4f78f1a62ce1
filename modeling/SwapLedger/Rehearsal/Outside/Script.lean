import SwapLedger.Json.Writer
import SwapLedger.Rehearsal.Outside
import SwapLedger.Rehearsal.Script

/-!
# Scripts of the outer world

The JSON form in which a database and nodes are written down. The database lists its faults by the
short names of the statements, and what its tables hold; a node lists its replies.
-/

namespace SwapLedger

namespace Rehearsal

namespace Fault

/-- Reads a fault. -/
def ofJson? : Json → Option Fault
  | .string "drop" => some .drop
  | .string "hang" => some .hang
  | json => do
    return .refused (← json.field "code" Json.string?) (← json.field "message" Json.string?)

/-- Reads faults, `null` standing for a success. -/
def list? : Json → Option (List (Option Fault)) :=
  Json.list? fun
    | .null => some none
    | fault => (ofJson? fault).map some

end Fault

namespace Server

/-- Reads the faults of statements. -/
def faults? : Json → Option (List (String × List (Option Fault)))
  | .object members => members.mapM fun (name, faults) => do return (name, ← Fault.list? faults)
  | _ => none

/-- Reads a row of the work queue: its queue, its payload, and how often it has been claimed. -/
def workRow? : Json → Option (String × String × Nat)
  | .array [.string queue, .string payload, deliveries] => do
    return (queue, payload, (← deliveries.u64?).toNat)
  | _ => none

/-- Reads a database. -/
def ofJson? (json : Json) : Option Server := do
  let processed ← json.fieldOr "processed" [] (Json.list? Json.i64?)
  let rows ← json.fieldOr "queue" [] (Json.list? workRow?)
  let work := rows.zipIdx.map fun ((queue, payload, deliveries), index) =>
    WorkRow.mk (index + 1) queue payload deliveries none
  let ledger := processed.foldl (fun ledger block => Tables.insertAscending block.toInt ledger) []
  let tables := { Tables.empty with processed := ledger, work, nextId := work.length + 1 }
  return { start tables with
    faults := ← json.fieldOr "faults" [] faults?,
    connections := ← json.fieldOr "connect" [] Fault.list? }

end Server

end Rehearsal

namespace NodeReply

/-- Reads a reply: a result, a refusal, a bare HTTP answer, or none. What has no such form is the
result itself. -/
def ofJson (json : Json) : NodeReply :=
  match json.member? "result", json.member? "rpc_error", json.member? "drop" with
  | some result, _, _ => holding "result" result
  | none, some error, _ => holding "error" error
  | none, none, some _ => .dropped
  | none, none, none =>
    match json.member? "status", json.member? "body" with
    | none, none => holding "result" json
    | status, body =>
      let status := (status.bind Json.u64?).elim 200 (·.toNat)
      .answered status ((json.member? "retry_after").bind Json.string?)
        ((body.bind Json.string?).getD "")

end NodeReply

namespace Rehearsal

namespace NodeBook

/-- Reads replies that are used up one by one, or a single one that stays. -/
def replies (json : Json) : Replies :=
  match json.member? "replies" with
  | some (.array replies) => replies.map NodeReply.ofJson
  | _ => [NodeReply.ofJson json]

/-- Reads listed replies. -/
def listed? : Json → Option (List (String × Replies))
  | .object members => some (members.map fun (key, json) => (key, replies json))
  | _ => none

/-- Reads a node that answers by what is asked. -/
def ofJson? (json : Json) : Option NodeBook := do
  return .contents (← json.fieldOr "blocks" [] listed?) (← json.fieldOr "transactions" [] listed?)
    (← json.fieldOr "tip" [] fun tip => some (replies tip))

end NodeBook

namespace Outside

/-- Where the database is. -/
def databaseAddress : String := "postgres://oracle@127.0.0.1:5432/oracle"

/-- Where the block stream is. -/
def streamAddress : String := "ws://127.0.0.1:9900"

/-- The port on which the node of a number listens. -/
def nodePort (number : Nat) : Nat := 8899 + number

/-- Where the node of a number is. -/
def nodeAddress (number : Nat) : String := "http://127.0.0.1:" ++ toString (nodePort number)

/-- Reads the database and the nodes of an outer world. -/
def ofJson? (json : Json) : Option Outside := do
  let server ← json.fieldOr "db" (Server.start .empty) Server.ofJson?
  let books ← json.fieldOr "nodes" [] (Json.list? NodeBook.ofJson?)
  let nodes := books.zipIdx.map fun (book, number) => (nodePort number, book)
  return { around 0 server with nodes }

end Outside

end Rehearsal

end SwapLedger
