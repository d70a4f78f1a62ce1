import SwapLedger.Bytes.Hex
import SwapLedger.Failure.Json
import SwapLedger.Rehearsal

/-!
# Scripts of rehearsals

The JSON form in which scripts are written down. A list of outcomes holds a failure, or `null` for a
success, per call. A node lists blocks by slot; a connection lists what it brings.
-/

namespace SwapLedger

namespace Rehearsal

/-- Reads the outcomes of the calls of one kind; a missing list means that all succeed. -/
def script? (json : Json) (name : String) : Option Script :=
  json.fieldOr name [] (Json.list? fun
    | .null => some none
    | failure => (Failure.ofJson? failure).map some)

/-- Reads a value that may be an object with an error in its place. A value of the wrong shape is a
failure too. -/
def outcome? {Value : Type} (read : Json → Option Value) (json : Json) :
    Option (Except Failure Value) :=
  match json.member? "error" with
  | some failure => (Failure.ofJson? failure).map .error
  | none => some ((read json).elim (.error (.serialization "")) .ok)

/-- Reads the blocks that a node knows. -/
def blocks? : Json → Option (List (Slot × Except Failure EncodedBlock))
  | .object members => members.mapM fun (slot, block) => do
    return (.ofNat (← slot.toNat?), ← outcome? (EncodedBlock.ofJson? .value) block)
  | _ => none

/-- Reads the newest slot that a node knows, or why it does not know it. -/
def tip? (json : Json) : Option (Except Failure Slot) :=
  match json.u64? with
  | some slot => some (.ok slot)
  | none => (Failure.ofJson? json).map .error

namespace Node

/-- Reads a node. -/
def ofJson? (json : Json) : Option Node :=
  return ⟨← json.fieldOr "blocks" [] blocks?, ← json.fieldOr "tip" (.ok 0) tip?,
    ← json.optField "cancel_at" Json.u64?⟩

end Node

namespace Parcel

/-- Reads what a consumer is given: a work item, a payload or a failure. -/
def ofJson? (json : Json) : Option Parcel := do
  let delay ← json.fieldOr "delay_ms" 0 Json.u64?
  match ← json.optField "error" Failure.ofJson? with
  | some failure => return ⟨delay.toNat, .error failure⟩
  | none =>
    let payload ← match json.member? "item" with
      | some item => (WorkItem.ofJson? item).map (·.toPayload)
      | none => json.field "payload" Json.string?
    return ⟨delay.toNat, .ok (payload, ← json.fieldOr "redelivered" false Json.bool?)⟩

end Parcel

namespace Stage

/-- Reads scripted services: what the store, the queue and the nodes do. -/
def ofJson? (json : Json) (prefetch : UInt16) : Option Stage := do
  let store := (json.member? "repository").getD .null
  let queue := (json.member? "queue").getD .null
  return { empty prefetch with
    insertions := ← script? store "insert", deletions := ← script? store "delete",
    marks := ← script? store "mark", publications := ← script? queue "publish",
    reconnections := ← script? queue "reconnect", prefetches := ← script? queue "prefetch",
    depths := ← script? queue "depth",
    nodes := ← json.fieldOr "clients" [] (Json.list? Node.ofJson?) }

end Stage

/-- A connection of the block stream. -/
structure Connection where
  /-- What the connection brings; nothing if it is refused. -/
  content : Option (List StreamEvent)
  /-- What it brings in the end, unless it stays open. -/
  parting : List StreamEvent

namespace Connection

/-- Reads something that a connection brings. -/
def event? : Json → Option StreamEvent
  | .object [("json", value)] => some (.text value.compact)
  | .object [("text", .string text)] => some (.text text)
  | .object [("binary", _)] => some .other
  | .object [("ping", payload)] => (Bytes.ofJson? payload).map .ping
  | _ => none

/-- What a connection brings that breaks off. -/
def broken : List StreamEvent :=
  [.failed "WebSocket protocol error: Connection reset without closing handshake"]

/-- What a connection brings in the end, by the name of its end. -/
def partingOf : String → List StreamEvent
  | "close" => [.closing, .ended]
  | "keep" => []
  | _ => broken

/-- Reads a connection. -/
def ofJson? (json : Json) : Option Connection := do
  let events ← json.fieldOr "frames" [] (Json.list? event?)
  let refused ← json.fieldOr "refuse" false Json.bool?
  return ⟨if refused then none else some events,
    partingOf (← json.fieldOr "end" "drop" Json.string?)⟩

end Connection

namespace Stage

variable (stage : Stage)

/-- Offers a connection. -/
def offer (connection : Connection) : Stage :=
  { stage with stream := { stage.stream with offered := some connection.content, coming := [] } }

/-- Lets the stream bring something. -/
def bring (events : List StreamEvent) : Stage :=
  { stage with stream := { stage.stream with coming := events } }

end Stage

end Rehearsal

end SwapLedger
