import SwapLedger.Lookups
import SwapLedger.Statement

/-!
# Tables

The tables of the database as a value, and what statements do to them. Rows that are inserted within
a transaction are kept apart until it is committed. A row of the work queue can be claimed when
nobody has claimed it or the claim is over.
-/

namespace SwapLedger

/-- A row of the work queue. -/
structure WorkRow where
  id : Nat
  queue : String
  payload : String
  /-- How often the row has been claimed. -/
  deliveries : Nat
  /-- When the last claim is over, unless it has been given up. -/
  claimedUntil : Option Nat
  deriving DecidableEq

namespace WorkRow

variable (row : WorkRow) (now : Nat)

/-- Whether a consumer of a queue can claim the row. -/
def claimable (queue : String) : Bool :=
  row.queue == queue && row.claimedUntil.all (· < now)

/-- The row after a claim. -/
def claim (timeoutSecs : UInt64) : WorkRow :=
  { row with
    deliveries := row.deliveries + 1, claimedUntil := some (now + timeoutSecs.toNat * 1000) }

/-- The row after its claim has been given up. -/
def unclaim : WorkRow := { row with claimedUntil := none }

end WorkRow

/-- All tables. -/
structure Tables where
  /-- The ledger of processed blocks, ascending. -/
  processed : List Int
  swaps : List SwapRecord
  lookups : LookupBatch
  /-- The work queue, by ascending ids. -/
  work : List WorkRow
  /-- The id of the next row of the work queue. -/
  nextId : Nat
  deriving DecidableEq

namespace Tables

/-- Tables without rows. -/
def empty : Tables := ⟨[], [], [], [], 1⟩

/-- Adds a number to an ascending list, unless it is there. -/
def insertAscending (value : Int) : List Int → List Int
  | [] => [value]
  | first :: rest =>
    if value = first then first :: rest
    else if value < first then value :: first :: rest
    else first :: insertAscending value rest

/-- The numbers strictly between two numbers, ascending. -/
def between (low high : Int) : List Int :=
  (List.range (high - low - 1).toNat).map fun offset => low + 1 + Int.ofNat offset

/-- The numbers that an ascending list passes over. -/
def passedOver : List Int → List Int
  | low :: high :: rest => between low high ++ passedOver (high :: rest)
  | _ => []

/-- Whether two rows conflict: they tell of the same transaction, pool, direction, amounts, block
and time. -/
def Conflicts (left right : SwapRecord) : Prop :=
  left.id = right.id ∧ left.pair = right.pair ∧ left.action = right.action ∧
    left.amountIn.SameValue right.amountIn ∧ left.amountOut.SameValue right.amountOut ∧
    left.blockNumber = right.blockNumber ∧ left.timestamp = right.timestamp

instance (left right : SwapRecord) : Decidable (Conflicts left right) := by
  unfold Conflicts
  infer_instance

/-- Adds a row unless it conflicts with one that is there. -/
def insertSwap (rows : List SwapRecord) (row : SwapRecord) : List SwapRecord :=
  if rows.any fun other => decide (Conflicts other row) then rows else rows ++ [row]

variable (tables : Tables)

/-- Changes the rows of the work queue that have an id. -/
def changeWork (id : Int) (change : WorkRow → Option WorkRow) : Tables :=
  { tables with work := tables.work.filterMap fun row =>
      if (row.id : Int) = id then change row else some row }

/-- Claims the first row of a queue that can be claimed. -/
def claim (now : Nat) (queue : String) (timeoutSecs : UInt64) : Option ClaimedRow × Tables :=
  match tables.work.find? fun row => row.claimable now queue with
  | none => (none, tables)
  | some row =>
    let claimed := row.claim now timeoutSecs
    (some ⟨claimed.id, claimed.payload, claimed.deliveries⟩,
      tables.changeWork row.id fun _ => some claimed)

/-- What a statement answers and does, at an instant and within a transaction that has inserted some
rows. -/
def apply (now : Nat) (uncommitted : List SwapRecord) :
    (statement : Statement) → statement.Answer × Tables × List SwapRecord
  | .mark block =>
    ((), { tables with processed := insertAscending block tables.processed }, uncommitted)
  | .begin => ((), tables, [])
  | .commit => ((), { tables with swaps := uncommitted.foldl insertSwap tables.swaps }, [])
  | .rollback => ((), tables, [])
  | .insertSwaps rows => ((), tables, uncommitted ++ rows)
  | .deleteSwaps id =>
    let kept := tables.swaps.filter (·.id != id)
    (tables.swaps.length - kept.length, { tables with swaps := kept }, uncommitted)
  | .findMissing => (passedOver tables.processed, tables, uncommitted)
  | .enqueueLookups addresses =>
    ((), { tables with lookups := tables.lookups.insertAll addresses }, uncommitted)
  | .publish queue payload =>
    let row : WorkRow := ⟨tables.nextId, queue, payload, 0, none⟩
    ((), { tables with work := tables.work ++ [row], nextId := tables.nextId + 1 }, uncommitted)
  | .claim queue timeoutSecs =>
    let (claimed, tables) := tables.claim now queue timeoutSecs
    (claimed, tables, uncommitted)
  | .remove id => ((), tables.changeWork id fun _ => none, uncommitted)
  | .release id => ((), tables.changeWork id fun row => some row.unclaim, uncommitted)
  | .depth queue =>
    ((tables.work.filter fun row => row.claimable now queue).length, tables, uncommitted)
  | .createProcessedBlocks => ((), tables, uncommitted)
  | .createSwaps => ((), tables, uncommitted)
  | .createSwapIndex => ((), tables, uncommitted)
  | .createLookups => ((), tables, uncommitted)
  | .createWork => ((), tables, uncommitted)
  | .createWorkIndex => ((), tables, uncommitted)
  | .ping => ((), tables, uncommitted)

end Tables

end SwapLedger
