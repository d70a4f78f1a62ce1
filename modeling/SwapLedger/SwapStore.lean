import SwapLedger.Wire

/-!
# The store

The store keeps everything in the database. A single statement takes a connection just for itself.
Swaps are inserted within one transaction, some rows at a time: either all of them are stored or
none. A connection that broke is not given back.
-/

namespace SwapLedger

namespace DatabaseFailure

/-- Whether the connection is of no use any more. -/
def breaks : DatabaseFailure → Bool
  | .lost => true
  | _ => false

end DatabaseFailure

namespace SwapStore

variable {Result : Type}

/-- Whether an outcome leaves the connection broken. -/
def broke : Except DatabaseFailure Result → Bool
  | .ok _ => false
  | .error failure => failure.breaks

/-- Executes a statement on the connection that is held. -/
def execute (statement : Statement) : Program Wire (Except DatabaseFailure statement.Answer) :=
  Wire.database (.execute statement)

/-- Executes a statement on a connection of its own. -/
def query (statement : Statement) : Program Wire (Except DatabaseFailure statement.Answer) := do
  match ← Wire.database .acquire with
  | .error failure => return .error failure
  | .ok () =>
    let outcome ← execute statement
    Wire.database (.giveBack (broke outcome))
    return outcome

/-- Executes statements up to the first that fails, each on a connection of its own. -/
def queryAll : List Statement → Program Wire (Except DatabaseFailure Unit)
  | [] => return .ok ()
  | statement :: rest => do
    match ← query statement with
    | .error failure => return .error failure
    | .ok _ => queryAll rest

/-- Ends a failed transaction and gives its connection back. -/
def abort (failure : DatabaseFailure) : Program Wire Unit := do
  if failure.breaks then Wire.database (.giveBack true)
  else
    match ← execute .rollback with
    | .ok _ => Wire.database (.giveBack false)
    | .error _ => Wire.database (.giveBack true)

/-- Does something within a transaction on a connection of its own. -/
def transaction (body : Program Wire (Except DatabaseFailure Unit)) :
    Program Wire (Except DatabaseFailure Unit) := do
  match ← Wire.database .acquire with
  | .error failure => return .error failure
  | .ok () =>
    match ← execute .begin with
    | .error failure =>
      Wire.database (.giveBack failure.breaks)
      return .error failure
    | .ok _ =>
      match ← body with
      | .ok () =>
        Wire.database (.giveBack false)
        return .ok ()
      | .error failure =>
        abort failure
        return .error failure

/-- How many rows one statement inserts at most. -/
def chunkSize : Nat := 1000

/-- Cuts a list into pieces of a size; only the last may be shorter. -/
def chunks {Item : Type} (size : Nat) (items : List Item) : List (List Item) :=
  if _h : items = [] ∨ size = 0 then []
  else items.take size :: chunks size (items.drop size)
termination_by items.length
decreasing_by
  have : items.length ≠ 0 := fun empty => _h (.inl (List.eq_nil_of_length_eq_zero empty))
  have : size ≠ 0 := fun zero => _h (.inr zero)
  simp only [List.length_drop]
  omega

/-- Inserts pieces up to the first that cannot be inserted, and commits. -/
def insertChunks : List (List SwapRecord) → Program Wire (Except DatabaseFailure Unit)
  | [] => execute .commit
  | chunk :: rest => do
    match ← execute (.insertSwaps chunk) with
    | .error failure => return .error failure
    | .ok _ => insertChunks rest

/-- Stores swaps, all or none. -/
def insertSwaps (swaps : List SwapRecord) : Program Wire (Except DatabaseFailure Unit) :=
  if swaps.isEmpty then return .ok ()
  else transaction (insertChunks (chunks chunkSize (swaps.map (·.toRow))))

/-- Adds addresses whose metadata is wanted. -/
def enqueueLookups (addresses : List Address) : Program Wire (Except DatabaseFailure Unit) :=
  if addresses.isEmpty then return .ok () else query (.enqueueLookups addresses)

/-- Sets up the connections and tries one. -/
def connect (address : String) (connections : Nat) :
    Program Wire (Except DatabaseFailure Unit) :=
  match DatabaseTarget.ofAddress address with
  | .error problem => return .error problem
  | .ok target => do
    Wire.database (.openPool target connections)
    match ← Wire.database .acquire with
    | .error failure => return .error failure
    | .ok () =>
      Wire.database (.giveBack false)
      return .ok ()

/-- The statements that create the tables. -/
def tables : List Statement :=
  [.createProcessedBlocks, .createSwaps, .createSwapIndex, .createLookups]

/-- The slots among the numbers that the database answers. -/
def slots (blocks : List Int) : List Slot :=
  blocks.filterMap fun block => if 0 ≤ block then some (.ofNat block.toNat) else none

/-- How many connections an instance has at most. -/
def standardConnections : Nat := 20

/-- Provides the store, given the address of the database. -/
def serve (address : String) (connections : Nat) :
    (call : StoreCall) → Program Wire call.Answer
  | .connect => do return (← connect address connections).mapError .database
  | .createTables => do return (← queryAll tables).mapError .database
  | .markProcessed slot => do
    return (← query (.mark (Statement.integer slot.toNat))).mapError .database
  | .insertSwaps swaps => do return (← insertSwaps swaps).mapError .database
  | .deleteSwaps signature => do return (← query (.deleteSwaps signature)).mapError .database
  | .missingBlocks => do return ((← query .findMissing).map slots).mapError .database
  | .enqueueLookups addresses => do return (← enqueueLookups addresses).mapError .database
  | .close => Wire.database .close

end SwapStore

end SwapLedger
