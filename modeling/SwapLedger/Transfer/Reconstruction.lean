import SwapLedger.TokenAccounts
import SwapLedger.Transfer

/-!
# Transfers of a transaction

The movements of value that the instructions of a transaction made, in execution order. Only the
system program and the token programs move value; an instruction that names no account where it
needs one, or whose token accounts cannot be resolved, makes no transfer, and neither does one that
moves nothing.
-/

namespace SwapLedger

namespace Evidence

variable (evidence : Evidence) (instruction : Instruction) (position : Position)

/-- The decimal places of the native currency. -/
def nativeDecimals : UInt8 := 9

/-- The movement of the native currency that an instruction asks for. -/
def nativeTransfer? (lamports : UInt64) : Option Transfer := do
  let source ← instruction.account? evidence.table 0
  let destination ← instruction.account? evidence.table 1
  return ⟨position, source, destination, source, "", .ofUnits lamports nativeDecimals, .native⟩

/-- Tokens moved between two accounts whose numbers stand at the given places. -/
def tokenTransfer? (sourcePlace destinationPlace authorityPlace : Nat)
    (resolve : UInt8 → UInt8 → Option (Address × UInt8)) (amount : UInt64) : Option Transfer := do
  let source ← instruction.accounts[sourcePlace]?
  let destination ← instruction.accounts[destinationPlace]?
  let (mint, decimals) ← resolve source destination
  return ⟨position, ← evidence.owner? source, ← evidence.owner? destination,
    ← instruction.account? evidence.table authorityPlace, mint, .ofUnits amount decimals, .token⟩

/-- Tokens made. They come from whoever signed, and go to the owner of the account or, if that is
not known, to the account itself. -/
def mintTransfer? (decimals : Option UInt8) (amount : UInt64) : Option Transfer := do
  let mint ← instruction.account? evidence.table 0
  let account ← instruction.accounts[1]?
  let decimals ← decimals.or (evidence.decimals? mint)
  let authority := (instruction.account? evidence.table 2).getD ""
  let destination ← (evidence.owner? account).or (evidence.table.address? account)
  return ⟨position, authority, destination, authority, mint, .ofUnits amount decimals, .mint⟩

/-- Tokens destroyed. They come from the owner of the account or, if that is not known, from whoever
signed. -/
def burnTransfer? (decimals : Option UInt8) (amount : UInt64) : Option Transfer := do
  let account ← instruction.accounts[0]?
  let mint ← instruction.account? evidence.table 1
  let decimals ← decimals.or (evidence.decimals? mint)
  let authority := (instruction.account? evidence.table 2).getD ""
  return ⟨position, (evidence.owner? account).getD authority, "", authority, mint,
    .ofUnits amount decimals, .burn⟩

/-- The mint of the source account or, if that is not known, of the destination. -/
def sharedMint? (source destination : UInt8) : Option (Address × UInt8) :=
  (evidence.mint? source).or (evidence.mint? destination)

/-- The movement that an instruction asks for, which may be of nothing. -/
def requestedTransfer? : Option Transfer := do
  match ← instruction.meaning? evidence.table with
  | .system (.transfer lamports) => evidence.nativeTransfer? instruction position lamports
  | .token (.transfer amount) =>
    evidence.tokenTransfer? instruction position 0 1 2 evidence.sharedMint? amount
  | .token (.transferChecked amount decimals) =>
    evidence.tokenTransfer? instruction position 0 2 3
      (fun _ _ => (instruction.account? evidence.table 1).map (·, decimals)) amount
  | .token (.mintTo amount) => evidence.mintTransfer? instruction position none amount
  | .token (.mintToChecked amount decimals) =>
    evidence.mintTransfer? instruction position (some decimals) amount
  | .token (.burn amount) => evidence.burnTransfer? instruction position none amount
  | .token (.burnChecked amount decimals) =>
    evidence.burnTransfer? instruction position (some decimals) amount
  | _ => none

/-- The transfer that an instruction made. -/
def transfer? : Option Transfer :=
  (evidence.requestedTransfer? instruction position).filter fun transfer =>
    transfer.amount.unscaled ≠ 0

/-- The transfers of a top-level instruction and of those it invoked. -/
def transfersAt (outer : Nat) : List Transfer :=
  (evidence.transfer? instruction (.topLevel outer)).toList ++
    (evidence.transaction.invokedBy outer).zipIdx.filterMap fun (invoked, inner) =>
      evidence.transfer? invoked (.invoked outer inner)

end Evidence

namespace Transaction

/-- The transfers that a transaction made, in execution order. -/
def transfers (transaction : Transaction) : List Transfer :=
  let evidence := Evidence.ofTransaction transaction
  transaction.instructions.zipIdx.flatMap fun (instruction, outer) =>
    evidence.transfersAt instruction outer

end Transaction

end SwapLedger
