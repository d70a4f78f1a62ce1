import SwapLedger.Text.Quoted

/-!
# Failures

What can go wrong outside of pure computation, by cause. `Failure.message` is the one place where
causes become words. A failure is transient if trying again may help.
-/

namespace SwapLedger

/-- Why the database did not do what it was asked for. -/
inductive DatabaseFailure where
  /-- No connection could be had in time. -/
  | timedOut
  /-- The connections have been closed for good. -/
  | closed
  /-- The connection broke. -/
  | lost
  /-- The database cannot be reached, for a reason that will not pass. -/
  | unreachable (reason : String)
  /-- The connection has to be encrypted, and the server does not do that. -/
  | unencrypted
  /-- The server refused, with a reason. -/
  | refused (reason : String)
  /-- The address of the database cannot be understood. -/
  | badAddress (reason : String)
  /-- The address of the database asks for a protection that does not exist. -/
  | badProtection (word : String)
  /-- A row that has to exist does not. -/
  | rowNotFound
  deriving DecidableEq

namespace DatabaseFailure

/-- What happened to a broken connection. -/
def lostReason : String := "expected to read 5 bytes, got 0 bytes at EOF"

/-- What is missing for an encrypted connection. -/
def unencryptedReason : String := "server does not support TLS"

/-- What is wrong with the word for a protection. -/
def protectionReason (word : String) : String :=
  "unknown value " ++ Text.quote word ++ " for `ssl_mode`"

/-- An address that is wrong for a reason, in words. -/
def addressMessage (reason : String) : String := "error with configuration: " ++ reason

/-- The failure in words. A wrong protection is found while the address is read, so it is said twice
that the address is wrong. -/
def message : DatabaseFailure → String
  | .timedOut => "pool timed out while waiting for an open connection"
  | .closed => "attempted to acquire a connection on a closed pool"
  | .lost => "error communicating with database: " ++ lostReason
  | .unreachable reason => "error communicating with database: " ++ reason
  | .unencrypted =>
    "error occurred while attempting to establish a TLS connection: " ++ unencryptedReason
  | .refused reason => "error returned from database: " ++ reason
  | .badAddress reason => addressMessage reason
  | .badProtection word => addressMessage (addressMessage (protectionReason word))
  | .rowNotFound => "no rows returned by a query that expected to return at least one row"

/-- What lies behind the failure. -/
def causes : DatabaseFailure → List String
  | .lost => [lostReason]
  | .unreachable reason => [reason]
  | .unencrypted => [unencryptedReason]
  | .refused reason => [reason]
  | .badAddress reason => [reason]
  | .badProtection word => [addressMessage (protectionReason word), protectionReason word]
  | _ => []

end DatabaseFailure

/-- What went wrong. -/
inductive Failure where
  | database (failure : DatabaseFailure)
  /-- A payload or transaction that cannot be understood. -/
  | decoding (reason : String)
  | rpc (reason : String)
  /-- A call of a node that failed. -/
  | rpcClient (reason : String)
  /-- The ledger has no block at this slot. -/
  | blockNotFound (slot : Nat)
  | nodeUnavailable (attempts : Nat) (lastError : String)
  | retryExhausted (attempts : Nat) (lastError : String)
  | batchInsertFailed (attempts : Nat) (lastError : String)
  | connection (reason : String)
  /-- The queue refused. -/
  | queue (reason : String)
  /-- The connection to the queue is gone. -/
  | queueClosed (reason : String)
  /-- A text that is not the JSON it should be. -/
  | serialization (reason : String)
  | configuration (reason : String)
  | internal (reason : String)
  deriving DecidableEq

namespace Failure

/-- The failure in words. -/
def message : Failure → String
  | .database failure => "Database error: " ++ failure.message
  | .decoding reason => "Decoding error: " ++ reason
  | .rpc reason => "RPC error: " ++ reason
  | .rpcClient reason => "RPC client error: " ++ reason
  | .blockNotFound slot => "Block not found for slot " ++ toString slot
  | .nodeUnavailable attempts lastError =>
    "Node unavailable after " ++ toString attempts ++ " attempts: " ++ lastError
  | .retryExhausted attempts lastError =>
    "Retry exhausted after " ++ toString attempts ++ " attempts: " ++ lastError
  | .batchInsertFailed attempts lastError =>
    "Batch insert failed after " ++ toString attempts ++ " attempts: " ++ lastError
  | .connection reason => "Connection error: " ++ reason
  | .queue reason => "Queue error: " ++ reason
  | .queueClosed reason => "Queue connection closed: " ++ reason
  | .serialization reason => "Serialization error: " ++ reason
  | .configuration reason => "Configuration error: " ++ reason
  | .internal reason => "Internal error: " ++ reason

/-- What lies behind the failure, from the nearest cause to the farthest. -/
def causes : Failure → List String
  | .database failure => failure.message :: failure.causes
  | _ => []

/-- Whether trying again may help. -/
def isTransient : Failure → Bool
  | .rpc _ | .rpcClient _ | .connection _ | .queueClosed _ | .database _ | .internal _ => true
  | _ => false

end Failure

/-- What a node answered when it refused a call. -/
structure NodeRefusal where
  code : Int
  reason : String

namespace NodeRefusal

/-- The codes with which a node says that the ledger has no block at a slot. -/
def skippedSlotCodes : List Int := [-32007, -32009]

/-- The refusal in words. -/
def message (refusal : NodeRefusal) : String :=
  "RPC response error " ++ toString refusal.code ++ ": " ++ refusal.reason ++ "; "

/-- The failure of a call for the block at a slot. -/
def ofBlockCall (slot : Nat) (refusal : NodeRefusal) : Failure :=
  if skippedSlotCodes.contains refusal.code then .blockNotFound slot
  else .rpcClient refusal.message

end NodeRefusal

end SwapLedger
