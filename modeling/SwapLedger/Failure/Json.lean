import SwapLedger.Failure
import SwapLedger.Json.Shape

/-!
# Failures as JSON

A failure is written with the name of its kind and its words. The words of a text that is not the
JSON it should be are left out, since they say nothing about the text. A failure in a script is
read from the name of its kind and what it carries.
-/

namespace SwapLedger

namespace Failure

/-- The name of the kind of a failure. -/
def kindName : Failure → String
  | .database _ => "DatabaseError"
  | .decoding _ => "DecodingError"
  | .rpc _ => "RpcError"
  | .rpcClient _ => "RpcClientError"
  | .blockNotFound _ => "BlockNotFound"
  | .nodeUnavailable _ _ => "NodeUnavailable"
  | .retryExhausted _ _ => "RetryExhausted"
  | .batchInsertFailed _ _ => "BatchInsertFailed"
  | .connection _ => "ConnectionError"
  | .queue _ => "QueueError"
  | .queueClosed _ => "QueueClosed"
  | .serialization _ => "SerializationError"
  | .configuration _ => "ConfigError"
  | .internal _ => "InternalError"

/-- The words of a failure as a field, unless they say nothing. -/
def messageField : Failure → List (String × Json)
  | .serialization _ => []
  | failure => [("message", .string failure.message)]

/-- Writes a failure. -/
def toJson (failure : Failure) : Json :=
  .object (("error", .string failure.kindName) :: failure.messageField)

/-- A failure of the database that is named in a script. -/
def ofDatabaseName : String → DatabaseFailure
  | "pool_timed_out" => .timedOut
  | "pool_closed" => .closed
  | _ => .rowNotFound

/-- Reads a failure of a script. -/
def ofJson? (json : Json) : Option Failure := do
  let fields ← json.fields? ["kind", "message", "attempts", "slot"]
  let message := (← fields.optional "message" Json.string?).getD ""
  let attempts := ((← fields.optional "attempts" Json.u32?).getD 0).toNat
  match ← fields.required "kind" Json.string? with
  | "DatabaseError" => return .database (ofDatabaseName message)
  | "DecodingError" => return .decoding message
  | "RpcError" => return .rpc message
  | "RpcClientError" => return .rpcClient ("Custom: " ++ message)
  | "BlockNotFound" => return .blockNotFound ((← fields.optional "slot" Json.u64?).getD 0).toNat
  | "NodeUnavailable" => return .nodeUnavailable attempts message
  | "RetryExhausted" => return .retryExhausted attempts message
  | "BatchInsertFailed" => return .batchInsertFailed attempts message
  | "ConnectionError" => return .connection message
  | "QueueError" => return .queue message
  | "QueueClosed" => return .queueClosed message
  | "SerializationError" => return .serialization message
  | "ConfigError" => return .configuration message
  | "InternalError" => return .internal message
  | _ => none

end Failure

namespace Json

/-- Writes a failure, or what there is instead of one. -/
def ofOutcome {Value : Type} (write : Value → Json) : Except Failure Value → Json
  | .ok value => write value
  | .error failure => failure.toJson

end Json

end SwapLedger
