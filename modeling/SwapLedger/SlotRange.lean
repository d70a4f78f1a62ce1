import SwapLedger.Transaction

/-!
# Ranges of slots

A range of consecutive slots, ends included. `SlotRange.group` cuts a list of slots into the fewest
ranges that give the list back.
-/

namespace SwapLedger

/-- The slots from the first to the last. -/
structure SlotRange where
  first : Slot
  last : Slot
  deriving DecidableEq

namespace SlotRange

/-- The slots of a range, in order. -/
def slots (range : SlotRange) : List Slot :=
  (List.range (range.last.toNat + 1 - range.first.toNat)).map fun offset =>
    .ofNat (range.first.toNat + offset)

/-- The fewest ranges that list the given slots in the given order. -/
def group : List Slot → List SlotRange
  | [] => []
  | slot :: rest =>
    match group rest with
    | [] => [⟨slot, slot⟩]
    | next :: others =>
      if slot.toNat + 1 = next.first.toNat then ⟨slot, next.last⟩ :: others
      else ⟨slot, slot⟩ :: next :: others

/-- What lies between the last slot that was dealt with, if there is one, and the first one seen
afterwards. -/
def gap? (lastProcessed : Option Slot) (firstSeen : Slot) : Option SlotRange := do
  let last ← lastProcessed
  if last.toNat + 1 < firstSeen.toNat then return ⟨last + 1, firstSeen - 1⟩ else none

end SlotRange

end SwapLedger
