import SwapLedger.Detection
import SwapLedger.Log

/-!
# What detection reports

Looking for swaps leaves entries in the log: native transfers that the balances do not bear out,
instructions that look like an exchange's but have the wrong accounts, and at last how many swaps
were found.
-/

namespace SwapLedger

namespace Transaction

variable (transaction : Transaction)

/-- Every instruction in execution order: each top-level one before those it invoked. -/
def executed : List Instruction :=
  transaction.instructions.zipIdx.flatMap fun (instruction, outer) =>
    instruction :: transaction.invokedBy outer

/-- The entry for a native transfer of more than its destination gained. -/
def excessEntry? (instruction : Instruction) : Option LogEntry := do
  match ← instruction.meaning? transaction.accounts with
  | .system (.transfer lamports) =>
    let _ ← instruction.account? transaction.accounts 0
    let destination ← instruction.account? transaction.accounts 1
    let change ← transaction.nativeChange? (← instruction.accounts[1]?)
    if change < lamports.toNat then
      return .plain .trace .transfers "Decoded lamports exceed the destination's balance change"
        [("signature", .shown transaction.signature), ("destination", .quoted destination),
          ("lamports", .number lamports.toNat), ("delta", .shown (toString change))]
    else none
  | _ => none

end Transaction

namespace Detection

variable (detection : Detection)

/-- The entry for an instruction of an exchange whose account list has the wrong shape. -/
def rejectionEntry? (instruction : Instruction) : Option LogEntry := do
  let program ← instruction.programAddress? detection.table
  let entry ← detection.registry.get? program
  if entry.gate.permits detection.table instruction then none
  else
    return .plain .trace .swaps "Account gate rejected instruction"
      [("protocol", .shown entry.protocol.label), ("accounts", .number instruction.accounts.length)]

/-- The entries of the search for swaps. -/
def log (slot : Slot) (swaps : List SwapRecord) : List LogEntry :=
  let rejections :=
    if detection.registry.touches detection.table then
      detection.transaction.executed.filterMap detection.rejectionEntry?
    else []
  let found :=
    if swaps.isEmpty then []
    else
      [.plain .debug .swaps "Detected swaps"
        [("signature", .shown detection.transaction.signature), ("slot", .number slot.toNat),
          ("swaps", .number swaps.length)]]
  rejections ++ found

end Detection

namespace Transaction

/-- The entries that looking for the swaps of a transaction leaves in the log. -/
def detectionLog (transaction : Transaction) (registry : Registry) (slot : Slot)
    (swaps : List SwapRecord) : List LogEntry :=
  transaction.executed.filterMap transaction.excessEntry? ++
    Detection.log ⟨registry, transaction, transaction.transfers⟩ slot swaps

end Transaction

end SwapLedger
