import SwapLedger.Services

/-!
# Writing lookups down

Lookups are gathered and written to the store when there are many of them or some time has passed.
Whatever has been asked for is written before the writer ends.
-/

namespace SwapLedger

namespace LookupWriter

/-- How many lookups are gathered before they are written. -/
def greatestBatch : Nat := 500

/-- How long lookups are gathered before they are written. -/
def intervalMs : Nat := 2000

/-- Writes lookups down. What cannot be written is lost. -/
def flush (batch : LookupBatch) : Program Services Unit := do
  if batch.isEmpty = false then
    if let .error failure ← Services.store (.enqueueLookups batch) then
      .report (.plain .warn .metadata "Failed to queue metadata lookups"
        [("count", .number batch.length), ("error", .shown failure.message)])

/-- Begins to write lookups down. -/
def begin : Program Services Unit := do
  Services.shared (.launch (.lookupWriter ⟨[], ← .clock⟩))

/-- Gathers one lookup, or writes those that have been gathered. -/
def turn (writer : LookupWriter) : Program Services (Option Job) := do
  match ← Services.shared (.nextLookup writer.nextFlush) with
  | .address address =>
    let batch := writer.batch.insert address
    if batch.length < greatestBatch then
      return some (.lookupWriter { writer with batch })
    else
      flush batch
      return some (.lookupWriter { writer with batch := [] })
  | .due =>
    flush writer.batch
    return some (.lookupWriter ⟨[], writer.nextFlush + intervalMs⟩)
  | .ended =>
    let rest ← Services.shared .takeLookups
    flush (writer.batch.insertAll rest)
    Services.shared .abandonLookups
    return none

end LookupWriter

end SwapLedger
