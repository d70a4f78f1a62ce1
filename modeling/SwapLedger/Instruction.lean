import SwapLedger.Address

/-!
# Instructions

An instruction names its program and its accounts by their numbers in the account table of the
transaction. A number beyond the table names nothing.
-/

namespace SwapLedger

/-- The accounts of a transaction, in the order in which instructions number them. -/
abbrev AccountTable := List Address

/-- One instruction of a transaction. -/
structure Instruction where
  /-- The number of the program. -/
  program : UInt8
  /-- The numbers of the accounts. -/
  accounts : List UInt8
  /-- The payload in base 58, as the node delivers it. -/
  data : String
  /-- How deep in the stack of invocations it ran, where the node tells. -/
  stackHeight : Option UInt32
  deriving DecidableEq

namespace AccountTable

/-- The address with a number. -/
def address? (table : AccountTable) (number : UInt8) : Option Address := table[number.toNat]?

end AccountTable

namespace Instruction

variable (instruction : Instruction) (table : AccountTable)

/-- The payload; a garbled text is an empty payload. -/
def payload : Bytes := Base58.decode instruction.data

/-- The address of the program. -/
def programAddress? : Option Address := table.address? instruction.program

/-- The address of the account at a place of the account list. -/
def account? (place : Nat) : Option Address :=
  instruction.accounts[place]?.bind table.address?

end Instruction

end SwapLedger
