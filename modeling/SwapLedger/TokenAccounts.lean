import SwapLedger.BalanceChange
import SwapLedger.Payload

/-!
# Token accounts

Token instructions name token accounts; to know who traded what, the wallet and the mint behind an
account are needed. They stand in the token balances, or, for an account that was opened in the same
transaction, in the instruction that opened it. `Evidence` gathers both for one transaction.
-/

namespace SwapLedger

/-- A token account that was opened by an instruction of the transaction. -/
structure Opening where
  account : Address
  owner : Address
  mint : Address
  deriving DecidableEq

namespace Instruction

variable (table : AccountTable) (instruction : Instruction)

/-- What the instruction asks for, if its program is named at all. -/
def meaning? : Option Payload :=
  (instruction.programAddress? table).map fun program => Payload.decode program instruction.payload

/-- The token account that the instruction opens, if it opens one and names all that belongs to
it. -/
def opening? : Option Opening := do
  match ← instruction.meaning? table with
  | .associatedToken request =>
    if request.createsAccount then
      return ⟨← instruction.account? table 1, ← instruction.account? table 2,
        ← instruction.account? table 3⟩
    else none
  | .token .initializeAccount =>
    return ⟨← instruction.account? table 0, ← instruction.account? table 2,
      ← instruction.account? table 1⟩
  | .token (.initializeAccount2 owner) | .token (.initializeAccount3 owner) =>
    return ⟨← instruction.account? table 0, owner, ← instruction.account? table 1⟩
  | _ => none

/-- The decimals that the instruction gives to `mint`, if it is the one that sets it up. -/
def mintDecimals? (mint : Address) : Option UInt8 := do
  match ← instruction.meaning? table with
  | .token (.initializeMint decimals _) =>
    if instruction.account? table 0 = some mint then return decimals else none
  | _ => none

end Instruction

/-- What a transaction tells about the token accounts it uses. -/
structure Evidence where
  transaction : Transaction
  /-- The whole account table. -/
  table : AccountTable
  /-- The accounts opened in the transaction, in order. -/
  openings : List Opening

namespace Evidence

/-- The evidence in a transaction. -/
def ofTransaction (transaction : Transaction) : Evidence :=
  let table := transaction.accounts
  ⟨transaction, table, transaction.allInstructions.filterMap (·.opening? table)⟩

variable (evidence : Evidence)

/-- The first opening of the account with a number. -/
def opening? (account : UInt8) : Option Opening := do
  let address ← evidence.table.address? account
  evidence.openings.find? fun opening => opening.account == address

/-- The wallet that owns a token account. A balance that names an owner goes before an opening. -/
def owner? (account : UInt8) : Option Address :=
  match evidence.transaction.tokenChange? account with
  | some change => if change.owner ≠ "" then some change.owner else openedFor
  | none => openedFor
where
  /-- The wallet for which the account was opened. -/
  openedFor : Option Address := do
    let opening ← evidence.opening? account
    if opening.owner ≠ "" then some opening.owner else none

/-- The decimals of a mint: those of a balance, afterwards or before, or else those it was set up
with in this transaction. -/
def decimals? (mint : Address) : Option UInt8 :=
  let balances := evidence.transaction.postTokenBalances ++ evidence.transaction.preTokenBalances
  match balances.find? fun balance => balance.mint == mint with
  | some balance => some balance.decimals
  | none => evidence.transaction.allInstructions.findSome? (·.mintDecimals? evidence.table mint)

/-- The mint of a token account, and its decimals. -/
def mint? (account : UInt8) : Option (Address × UInt8) :=
  match evidence.transaction.tokenChange? account with
  | some change => some (change.mint, change.decimals)
  | none => do
    let opening ← evidence.opening? account
    return (opening.mint, ← evidence.decimals? opening.mint)

end Evidence

end SwapLedger
