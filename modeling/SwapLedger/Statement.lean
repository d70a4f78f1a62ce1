import SwapLedger.SwapRecord

/-!
# Statements

What is said to the database. There are four tables: the ledger of processed blocks, the swaps, the
lookups that are wanted, and the work queue. Numbers are signed 64-bit integers there; a greater
number is stored as the greatest of them.
-/

namespace SwapLedger

/-- A row of the work queue that has been claimed. -/
structure ClaimedRow where
  id : Nat
  payload : String
  /-- How often the row has been claimed. -/
  deliveries : Nat
  deriving DecidableEq

/-- A statement with its parameters. -/
inductive Statement where
  | createProcessedBlocks
  | createSwaps
  | createSwapIndex
  | createLookups
  | createWork
  | createWorkIndex
  /-- Enters a block into the ledger, unless it is there already. -/
  | mark (block : Int)
  | begin
  | commit
  | rollback
  /-- Adds rows, passing over those that conflict with a row that is there. -/
  | insertSwaps (rows : List SwapRecord)
  /-- Removes the rows of a transaction. -/
  | deleteSwaps (id : String)
  /-- The blocks between the first and the last of the ledger that are not in it. -/
  | findMissing
  /-- Adds addresses, passing over those that are there. -/
  | enqueueLookups (addresses : List Address)
  | publish (queue payload : String)
  /-- Takes the first row of a queue that nobody holds, and holds it for some seconds. -/
  | claim (queue : String) (timeoutSecs : UInt64)
  | remove (id : Int)
  /-- Gives up the hold on a row. -/
  | release (id : Int)
  /-- How many rows of a queue nobody holds. -/
  | depth (queue : String)
  | ping
  deriving DecidableEq

namespace Statement

/-- What a statement answers. -/
@[reducible] def Answer : Statement → Type
  | .deleteSwaps _ => Nat
  | .findMissing => List Int
  | .claim _ _ => Option ClaimedRow
  | .depth _ => Nat
  | _ => Unit

/-- The short name of a statement. -/
def name : Statement → String
  | .createProcessedBlocks => "create_processed_blocks"
  | .createSwaps => "create_swap_logs"
  | .createSwapIndex => "create_swap_logs_index"
  | .createLookups => "create_token_metadata_queue"
  | .createWork => "create_work_queue"
  | .createWorkIndex => "create_work_queue_index"
  | .mark _ => "mark"
  | .begin => "begin"
  | .commit => "commit"
  | .rollback => "rollback"
  | .insertSwaps _ => "insert_swaps"
  | .deleteSwaps _ => "delete_swaps"
  | .findMissing => "find_missing"
  | .enqueueLookups _ => "enqueue_metadata"
  | .publish _ _ => "publish"
  | .claim _ _ => "claim"
  | .remove _ => "remove"
  | .release _ => "release"
  | .depth _ => "depth"
  | .ping => "ping"

/-- The greatest number that the database stores. -/
def greatestInteger : Nat := (1 <<< 63) - 1

/-- A number as the database stores it. -/
def integer (value : Nat) : Int := min value greatestInteger

end Statement

namespace SwapRecord

/-- A swap as the database stores it. -/
def toRow (swap : SwapRecord) : SwapRecord :=
  { swap with blockNumber := min swap.blockNumber (.ofNat Statement.greatestInteger) }

end SwapRecord

end SwapLedger
