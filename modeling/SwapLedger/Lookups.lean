import SwapLedger.Address

/-!
# Lookups

Addresses whose metadata is wanted wait in a channel until they are written down. Nobody waits for
the channel. What is taken out at once has no duplicates and is in ascending order.
-/

namespace SwapLedger

/-- A set of addresses in ascending order. -/
abbrev LookupBatch := List Address

namespace LookupBatch

/-- Adds an address. -/
def insert (address : Address) : LookupBatch → LookupBatch
  | [] => [address]
  | first :: rest =>
    if address = first then first :: rest
    else if address < first then address :: first :: rest
    else first :: insert address rest

/-- Adds many addresses. -/
def insertAll (addresses : List Address) (batch : LookupBatch) : LookupBatch :=
  addresses.foldl (fun batch address => batch.insert address) batch

end LookupBatch

/-- The channel through which lookups are asked for. -/
structure Lookups where
  /-- What has not been taken out, the oldest first. -/
  pending : List Address
  /-- Whether there is someone to take lookups out. -/
  received : Bool
  /-- Whether more lookups may come. -/
  sendable : Bool

namespace Lookups

/-- A channel with nothing in it. -/
def empty : Lookups := ⟨[], true, true⟩

variable (lookups : Lookups)

/-- Whether an address that is asked for is lost. -/
def loses (address : Address) : Bool := address != "" && ! lookups.received

/-- Asks for an address. The empty address is passed over. -/
def add (address : Address) : Lookups :=
  if address = "" ∨ lookups.received = false then lookups
  else { lookups with pending := lookups.pending ++ [address] }

/-- All that is waiting, in ascending order and without duplicates. -/
def batch : LookupBatch := LookupBatch.insertAll lookups.pending []

/-- The channel after all that is waiting has been taken out. -/
def drained : Lookups := { lookups with pending := [] }

/-- Nobody will take anything out any more. -/
def abandoned : Lookups := { lookups with pending := [], received := false }

end Lookups

end SwapLedger
