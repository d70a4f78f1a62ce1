import SwapLedger.Failure.Json
import SwapLedger.SwapRecord.Json
import SwapLedger.Rehearsal.Journal

/-!
# Orders

A script orders calls of the store and of the queue by short names and arguments. An order is a call
together with a way to write down what it answers.
-/

namespace SwapLedger

namespace Rehearsal

/-- A success that comes with nothing. -/
def success : Json := .string "ok"

/-- Writes an outcome without a value. -/
def plainOutcome : Except Failure Unit → Json := .ofOutcome fun _ => success

/-- A call of the store and how its answer is written. -/
structure StoreOrder where
  call : StoreCall
  write : call.Answer → Json

namespace StoreOrder

/-- So many copies of a swap; each has its number added to its id. -/
def copies (swap : SwapRecord) (count : Nat) : List SwapRecord :=
  (List.range count).map fun number => { swap with id := swap.id ++ toString number }

/-- Reads an order. -/
def ofJson? : List Json → Option StoreOrder
  | [.string "initialize"] => some ⟨.createTables, plainOutcome⟩
  | [.string "mark", slot] => do return ⟨.markProcessed (← slot.u64?), plainOutcome⟩
  | [.string "insert", swaps] => do
    return ⟨.insertSwaps (← swaps.list? SwapRecord.ofJson?), plainOutcome⟩
  | [.string "insert_many", swap, count] => do
    let swaps := copies (← SwapRecord.ofJson? swap) (← count.u64?).toNat
    return ⟨.insertSwaps swaps, plainOutcome⟩
  | [.string "delete", .string signature] => some ⟨.deleteSwaps signature, .ofOutcome .ofNat⟩
  | [.string "missing"] => some ⟨.missingBlocks, .ofOutcome (.ofList fun slot => .ofNat slot.toNat)⟩
  | [.string "enqueue", addresses] => do
    return ⟨.enqueueLookups (← addresses.list? Json.string?), plainOutcome⟩
  | [.string "close"] => some ⟨.close, fun _ => success⟩
  | _ => none

end StoreOrder

/-- A call of the queue and how its answer is written. -/
structure QueueOrder where
  call : QueueCall
  write : call.Answer → Json

namespace QueueOrder

/-- Reads an order. -/
def ofJson? : List Json → Option QueueOrder
  | [.string "initialize"] => some ⟨.createTables, plainOutcome⟩
  | [.string "publish", item] => do return ⟨.publish (← WorkItem.ofJson? item), plainOutcome⟩
  | [.string "ack", tag] => do return ⟨.acknowledge (← tag.u64?).toNat, plainOutcome⟩
  | [.string "nack", tag, .bool requeue] => do
    return ⟨.reject (← tag.u64?).toNat requeue, plainOutcome⟩
  | [.string "depth"] => some ⟨.depth, .ofOutcome fun depth => .ofNat depth.toNat⟩
  | [.string "prefetch", limit] => do return ⟨.setPrefetch (← limit.u16?), plainOutcome⟩
  | [.string "reconnect"] => some ⟨.reconnect, plainOutcome⟩
  | _ => none

end QueueOrder

end Rehearsal

end SwapLedger
