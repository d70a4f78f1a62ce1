import SwapLedger.EncodedTransaction.Json
import SwapLedger.Log
import SwapLedger.WorkItem

/-!
# Blocks as the node encodes them

A block gives one work item for every transaction that succeeded and is spelled out. The node tells
of blocks in answers and in notifications of its block stream.
-/

namespace SwapLedger

/-- A block with what is needed of it. -/
structure EncodedBlock where
  /-- When the block was made, if the node knows. -/
  time : Option Timestamp
  /-- The transactions, if they were asked for. -/
  transactions : Option (List EncodedTransaction)
  deriving DecidableEq

namespace EncodedBlock

/-- Reads a block. -/
def ofJson? (source : Json.Source) (json : Json) : Option EncodedBlock := do
  let fields ← json.fields? ["previousBlockhash", "blockhash", "parentSlot", "transactions",
    "signatures", "rewards", "numRewardPartitions", "blockTime", "blockHeight"]
  let _ ← fields.required "previousBlockhash" Json.string?
  let _ ← fields.required "blockhash" Json.string?
  let _ ← fields.required "parentSlot" Json.u64?
  let transactions ← fields.optionalWithDefault "transactions"
    (Json.list? (EncodedTransaction.ofJson? source))
  let _ ← fields.optionalWithDefault "signatures" (Json.list? Json.string?)
  let _ ← fields.optionalWithDefault "rewards" (Json.list? (EncodedTransaction.reward? source))
  let _ ← fields.optionalWithDefault "numRewardPartitions" Json.u64?
  let time ← fields.optional "blockTime" Json.i64?
  let _ ← fields.optional "blockHeight" Json.u64?
  return ⟨time, transactions⟩

variable (block : EncodedBlock)

/-- The transactions that succeeded. -/
def successes : List EncodedTransaction := (block.transactions.getD []).filter (·.succeeded)

/-- One work item for every transaction that succeeded and is spelled out. A block whose time is not
known counts as made at the epoch. -/
def items (slot : Slot) : List WorkItem :=
  block.successes.filterMap fun encoded =>
    match encoded.decode with
    | .ok transaction => some ⟨slot, block.time.getD 0, [transaction]⟩
    | .error _ => none

/-- What is logged about the transactions that are left out. -/
def log (slot : Slot) : List LogEntry :=
  block.successes.filterMap fun encoded =>
    match encoded.decode with
    | .ok _ => none
    | .error failure =>
      some (.plain .debug .workItems "Skipping undecodable transaction"
        [("slot", .number slot.toNat), ("error", .shown failure.message)])

end EncodedBlock

/-- A block that the stream tells of. -/
structure BlockNotification where
  slot : Slot
  block : EncodedBlock
  deriving DecidableEq

namespace BlockNotification

/-- The value of a field that is present. -/
def inside (name : String) (json : Json) : Option Json := do
  (← json.fields? [name]).required name some

/-- Reads a message of the stream. Messages that tell of an error or of no block are no
notifications. -/
def parse? (text : String) : Option BlockNotification := do
  let value ← inside "value" (← inside "result" (← inside "params" (← Json.parse? text)))
  let fields ← value.fields? ["slot", "block", "err"]
  let slot ← fields.required "slot" Json.u64?
  let block ← fields.optional "block" (EncodedBlock.ofJson? .text)
  let error ← fields.optionalWithDefault "err" Json.whole?
  if error.isSome then none else return ⟨slot, ← block⟩

end BlockNotification

/-- A transaction as the node answers it. -/
structure ConfirmedTransaction where
  slot : Slot
  time : Option Timestamp
  transaction : EncodedTransaction
  deriving DecidableEq

namespace ConfirmedTransaction

/-- Reads a confirmed transaction: an object that holds the fields of the transaction too. -/
def ofJson? (json : Json) : Option ConfirmedTransaction := do
  let fields ← json.fields? (["slot", "blockTime"] ++ EncodedTransaction.fieldNames)
  if fields.positional then none
  else
    return ⟨← fields.required "slot" Json.u64?, ← fields.optional "blockTime" Json.i64?,
      ← EncodedTransaction.ofFields? .picked fields⟩

end ConfirmedTransaction

end SwapLedger
