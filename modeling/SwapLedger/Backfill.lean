import SwapLedger.Services

/-!
# Backfills

A backfill fetches the blocks of a range once more, enters each into the ledger of processed blocks
and publishes its work items. The nodes take turns. A block that cannot be had is counted and passed
over; only finding out the newest slot can make a backfill fail.
-/

namespace SwapLedger

/-- What became of the slots of a range. The counts have no bound, where the machine has 64-bit
words. -/
structure BackfillReport where
  /-- Blocks that were fetched and entered into the ledger. -/
  fetched : Nat
  /-- Slots without a block. -/
  skipped : Nat
  /-- Blocks that were given up. -/
  failed : Nat
  /-- Work items that were published. -/
  published : Nat
  deriving DecidableEq

namespace BackfillReport

/-- Nothing done yet. -/
def zero : BackfillReport := ⟨0, 0, 0, 0⟩

/-- The counts as fields of a log entry. -/
def logFields (report : BackfillReport) : List (String × LogValue) :=
  [("fetched", .number report.fetched), ("skipped", .number report.skipped),
    ("failed", .number report.failed), ("published", .number report.published)]

end BackfillReport

namespace Backfill

variable (clients : Nat)

/-- The node whose turn it is. -/
def nextClient : Program Services Nat := do
  return (← Services.shared .takeTurn) % clients

/-- Publishes the items of a slot. An item that cannot be published is lost. -/
def publishAll (slot : Slot) : List WorkItem → BackfillReport → Program Services BackfillReport
  | [], report => return report
  | item :: rest, report => do
    match ← Services.queue (.publish item) with
    | .ok () => publishAll slot rest { report with published := report.published + 1 }
    | .error failure =>
      .report (.failure ("Backfill publish slot " ++ toString slot) failure.message)
      publishAll slot rest report

/-- Deals with one slot. -/
def fetchSlot (slot : Slot) (report : BackfillReport) : Program Services BackfillReport := do
  let giveUp (failure : Failure) : Program Services BackfillReport := do
    .report (.failure ("Backfill slot " ++ toString slot) failure.message)
    return { report with failed := report.failed + 1 }
  match ← Services.node (← nextClient clients) (.block slot) with
  | .error (.blockNotFound _) =>
    .report (.plain .debug .backfill "Slot skipped by the ledger" [("slot", .number slot.toNat)])
    return { report with skipped := report.skipped + 1 }
  | .error failure => giveUp failure
  | .ok block =>
    match ← Services.store (.markProcessed slot) with
    | .error failure => giveUp failure
    | .ok () =>
      .reportAll (block.log slot)
      publishAll slot (block.items slot) { report with fetched := report.fetched + 1 }

/-- Deals with so many slots in a row. -/
def fetchSlots : (count : Nat) → Slot → BackfillReport → Program Services BackfillReport
  | 0, _, report => return report
  | count + 1, slot, report => do
    if ← .stopRequested then
      .report (.plain .info .backfill "Backfill interrupted by shutdown" [("slot", .number slot.toNat)])
      return report
    else
      fetchSlots count (slot + 1) (← fetchSlot clients slot report)

/-- Deals with the slots from the first to the last. -/
def fetchRange (first last : Slot) : Program Services BackfillReport :=
  if last < first then return .zero
  else do
    let ends := [("from", .number first.toNat), ("to", .number last.toNat)]
    .report (.plain .info .backfill "Starting backfill" ends)
    let report ← fetchSlots clients (last.toNat + 1 - first.toNat) first .zero
    .report (.plain .info .backfill "Backfill finished" (ends ++ report.logFields))
    return report

/-- Deals with the slots from the first to the last. A last slot of zero stands for the newest one. -/
def run (first last : Slot) : Program Services (Except Failure BackfillReport) := do
  if last = 0 then
    match ← Services.node (← nextClient clients) .tip with
    | .error failure => return .error failure
    | .ok tip => return .ok (← fetchRange clients first tip)
  else return .ok (← fetchRange clients first last)

/-- The refusal to set up backfills without nodes, starting a rotation otherwise. -/
def prepare : Program Services (Except Failure Unit) :=
  if clients = 0 then return .error (.configuration "backfill needs at least one node client")
  else do
    Services.shared .startRotation
    return .ok ()

/-- Runs a backfill that nobody waits for. -/
def runAlone (first last : Slot) : Program Services Unit := do
  match ← run clients first last with
  | .ok _ => return ()
  | .error failure =>
    .report (.failure ("Backfill " ++ toString first ++ "..=" ++ toString last) failure.message)

end Backfill

end SwapLedger
