import SwapLedger.Failure
import SwapLedger.Transaction

/-!
# Transactions as the node encodes them

A node can tell a transaction in several encodings, of which only one spells out the instructions as
they were sent. A transaction in that encoding, with the record of what it did, is a `Transaction`.
-/

namespace SwapLedger

/-- An instruction that was invoked. -/
inductive EncodedInstruction where
  /-- One that is given as it was sent. -/
  | compiled (instruction : Instruction)
  /-- One that the node has interpreted. -/
  | interpreted
  deriving DecidableEq

/-- What a transaction asks for. -/
inductive EncodedMessage where
  /-- One that the node has interpreted. -/
  | interpreted
  | raw (accountKeys : List Address) (instructions : List Instruction)
  deriving DecidableEq

/-- A transaction in one of the encodings. -/
inductive EncodedBody where
  /-- The bytes of the transaction. -/
  | binary
  | spelledOut (signatures : List String) (message : EncodedMessage)
  /-- Only which accounts take part. -/
  | accounts
  deriving DecidableEq

/-- The instructions invoked while one top-level instruction ran. -/
structure EncodedGroup where
  index : UInt8
  instructions : List EncodedInstruction
  deriving DecidableEq

/-- The record of what a transaction did. -/
structure ExecutionRecord where
  /-- Whether an error is recorded. -/
  failed : Bool
  preBalances : List UInt64
  postBalances : List UInt64
  groups : List EncodedGroup
  preTokenBalances : List TokenBalance
  postTokenBalances : List TokenBalance
  loadedWritable : List Address
  loadedReadonly : List Address
  deriving DecidableEq

/-- A transaction as the node tells it. -/
structure EncodedTransaction where
  body : EncodedBody
  record : Option ExecutionRecord
  deriving DecidableEq

namespace EncodedInstruction

/-- The instruction as it was sent. -/
def compiled? : EncodedInstruction → Option Instruction
  | .compiled instruction => some instruction
  | .interpreted => none

end EncodedInstruction

namespace EncodedGroup

/-- The group without the instructions that the node has interpreted. -/
def toGroup (group : EncodedGroup) : InnerGroup :=
  ⟨group.index, group.instructions.filterMap (·.compiled?)⟩

end EncodedGroup

namespace EncodedTransaction

variable (encoded : EncodedTransaction)

/-- Whether the transaction is known to have had an effect. -/
def succeeded : Bool :=
  match encoded.record with
  | some record => ! record.failed
  | none => false

/-- The transaction, if its encoding spells it out and its record is known. -/
def decode : Except Failure Transaction :=
  match encoded.body with
  | .binary | .accounts => .error (.decoding "transaction is not JSON encoded")
  | .spelledOut _ .interpreted => .error (.decoding "parsed messages are not supported")
  | .spelledOut [] (.raw _ _) => .error (.decoding "transaction has no signature")
  | .spelledOut (signature :: _) (.raw accountKeys instructions) =>
    match encoded.record with
    | none => .error (.decoding ("transaction " ++ signature ++ " has no status meta"))
    | some record =>
      .ok ⟨signature, accountKeys, record.loadedWritable, record.loadedReadonly, instructions,
        record.groups.map (·.toGroup), record.preBalances, record.postBalances,
        record.preTokenBalances, record.postTokenBalances⟩

end EncodedTransaction

end SwapLedger
