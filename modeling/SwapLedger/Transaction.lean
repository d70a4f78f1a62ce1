import SwapLedger.Instruction
import SwapLedger.InvocationTree

/-!
# Transactions

A transaction as the node delivers it: its account table in three parts, the instructions it was
sent with, the groups of instructions that those invoked, and the balances before and after.
-/

namespace SwapLedger

/-- The number of a block. -/
abbrev Slot := UInt64

/-- Seconds since the epoch. -/
abbrev Timestamp := Int64

/-- The instructions invoked while one top-level instruction ran. -/
structure InnerGroup where
  /-- The place of the top-level instruction. -/
  index : UInt8
  instructions : List Instruction
  deriving DecidableEq

/-- What a token account held at one moment. -/
structure TokenBalance where
  /-- The number of the token account. -/
  account : UInt8
  mint : Address
  /-- The wallet that owns the account, empty where the node does not tell. -/
  owner : Address
  /-- The amount in smallest units, as text. -/
  amount : String
  decimals : UInt8
  deriving DecidableEq

/-- A transaction with the record of what it did. -/
structure Transaction where
  /-- Its first signature, by which it is known. -/
  signature : String
  /-- The accounts named in the transaction itself. -/
  accountKeys : List Address
  /-- The writable accounts loaded from look-up tables. -/
  loadedWritable : List Address
  /-- The other accounts loaded from look-up tables. -/
  loadedReadonly : List Address
  instructions : List Instruction
  innerGroups : List InnerGroup
  preBalances : List UInt64
  postBalances : List UInt64
  preTokenBalances : List TokenBalance
  postTokenBalances : List TokenBalance
  deriving DecidableEq

namespace Transaction

variable (transaction : Transaction)

/-- The whole account table. -/
def accounts : AccountTable :=
  transaction.accountKeys ++ transaction.loadedWritable ++ transaction.loadedReadonly

/-- The instructions that the top-level instruction at a place invoked: those of the first group
that names it. -/
def invokedBy (outer : Nat) : List Instruction :=
  match transaction.innerGroups.find? fun group => group.index.toNat == outer with
  | none => []
  | some group => group.instructions

/-- Who invoked whom among the instructions that the top-level instruction at a place invoked. -/
def invocationTree (outer : Nat) : InvocationTree :=
  .build ((transaction.invokedBy outer).map fun instruction => instruction.stackHeight.map (·.toNat))

/-- Every instruction: the top-level ones, then the groups one after the other. -/
def allInstructions : List Instruction :=
  transaction.instructions ++ transaction.innerGroups.flatMap (·.instructions)

end Transaction

/-- Where an instruction stands in a transaction. -/
structure Position where
  /-- The place of the top-level instruction. -/
  outer : Nat
  /-- The place in its group of an invoked instruction, `none` for the top-level one itself. -/
  inner : Option Nat
  deriving DecidableEq

namespace Position

/-- A number that grows with execution order among the instructions of one top-level instruction. -/
def rank : Option Nat → Nat
  | none => 0
  | some index => index + 1

/-- Execution order: a top-level instruction runs before those it invokes. -/
def lt (left right : Position) : Prop :=
  left.outer < right.outer ∨ left.outer = right.outer ∧ rank left.inner < rank right.inner

instance : LT Position := ⟨lt⟩

instance : LE Position := ⟨fun left right => ¬right < left⟩

instance (left right : Position) : Decidable (left < right) :=
  inferInstanceAs (Decidable
    (left.outer < right.outer ∨ left.outer = right.outer ∧ rank left.inner < rank right.inner))

instance (left right : Position) : Decidable (left ≤ right) :=
  inferInstanceAs (Decidable (¬right < left))

/-- The position of a top-level instruction. -/
def topLevel (outer : Nat) : Position := ⟨outer, none⟩

/-- The position of an invoked instruction. -/
def invoked (outer inner : Nat) : Position := ⟨outer, some inner⟩

end Position

end SwapLedger
