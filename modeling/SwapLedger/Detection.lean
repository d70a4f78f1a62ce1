import SwapLedger.Registry
import SwapLedger.SwapRecord
import SwapLedger.Transfer.Reconstruction

/-!
# Detection of swaps

The instructions of a transaction are visited in execution order. One whose program is a registered
exchange is given to its matcher, together with the transfers made while it ran that no earlier
swap of the same top-level instruction has claimed: a cursor, which only moves forward, marks the
first transfer that is still free. Every visit is kept with the ranges that were cut out for it and,
if a matcher ran, its `MatchRun`, so that what was claimed by whom can be read off.
-/

namespace SwapLedger

/-- One run of a matcher: the window it was given, as places in the list of transfers, and what it
found. -/
structure MatchRun where
  context : MatchContext
  /-- The place of the first transfer of the window. -/
  start : Nat
  outcome : MatchOutcome

namespace MatchRun

/-- How many transfers of its window the run claims. -/
def claimed (run : MatchRun) : Nat := min run.outcome.consumed run.context.window.length

end MatchRun

/-- One visit of an instruction. -/
structure Visit where
  position : Position
  /-- The place in its group of the first instruction that it invoked. -/
  first : Nat
  /-- The place after the last instruction that it invoked. -/
  past : Nat
  /-- The place of the first transfer of its window. -/
  start : Nat
  /-- The place after the last transfer of its window. -/
  stop : Nat
  /-- The run of its matcher, if it has one and is not turned away. -/
  run : Option MatchRun

namespace Visit

/-- How many transfers the visit claims. -/
def claimed (visit : Visit) : Nat := (visit.run.map (·.claimed)).getD 0

/-- The first free transfer after the visit of an invoked instruction, given the one before. A run
that uses up nothing leaves it where it was. -/
def cursorAfter (visit : Visit) (cursor : Nat) : Nat :=
  match visit.run with
  | none => cursor
  | some run => if run.outcome.consumed = 0 then cursor else visit.start + run.claimed

end Visit

/-- What the swaps of one transaction are found in. -/
structure Detection where
  registry : Registry
  transaction : Transaction
  /-- The transfers of the transaction, in execution order. -/
  transfers : List Transfer

namespace Detection

variable (detection : Detection)

/-- The account table of the transaction. -/
def table : AccountTable := detection.transaction.accounts

/-- How many transfers stand before the first one that fails a condition. -/
def countWhile (condition : Transfer → Bool) : Nat :=
  (detection.transfers.takeWhile condition).length

/-- How many transfers were made before a position. -/
def madeBefore (position : Position) : Nat :=
  detection.countWhile fun transfer => decide (transfer.position < position)

/-- The transfers between two places. -/
def windowBetween (start stop : Nat) : List Transfer :=
  (detection.transfers.drop start).take (stop - start)

/-- The entry by which an instruction is read, if its program is a registered exchange, its account
list has the right shape, and it is not the report of an event. -/
def reading? (instruction : Instruction) : Option RegistryEntry := do
  let program ← instruction.programAddress? detection.table
  let entry ← detection.registry.get? program
  if ! entry.gate.permits detection.table instruction then none
  else if TradeEvent.selfInvocationTag.isPrefixOf instruction.payload then none
  else return entry

/-- Runs the matcher of an instruction, if it is read as one of an exchange. -/
def run? (instruction : Instruction) (position : Position) (invoked : List Instruction)
    (invokedStart start stop : Nat) : Option MatchRun :=
  (detection.reading? instruction).map fun entry =>
    let context : MatchContext :=
      ⟨entry.protocol, detection.table, instruction, position, detection.windowBetween start stop,
        invoked, invokedStart⟩
    ⟨context, start, entry.matcher context⟩

/-- The visit of an instruction that invoked a range of a group, with a range of the transfers for
its window. -/
def visit (instruction : Instruction) (position : Position) (group : List Instruction)
    (first past start stop : Nat) : Visit :=
  ⟨position, first, past, start, stop,
    detection.run? instruction position ((group.drop first).take (past - first)) first start stop⟩

/-- The visit of an invoked instruction, given the first free transfer. Its window are the free
transfers of the instructions that it invoked. -/
def innerVisit (outer : Nat) (group : List Instruction) (tree : InvocationTree) (cursor : Nat)
    (instruction : Instruction) (index : Nat) : Visit :=
  let (first, past) := tree.descendants index
  let start := max (detection.madeBefore (.invoked outer first)) cursor
  let stop := max (detection.madeBefore (.invoked outer past)) start
  detection.visit instruction (.invoked outer index) group first past start stop

/-- The visits of the instructions of a group from a place on, given the first free transfer. -/
def innerVisits (outer : Nat) (group : List Instruction) (tree : InvocationTree) :
    (cursor : Nat) → List (Instruction × Nat) → List Visit
  | _, [] => []
  | cursor, (instruction, index) :: rest =>
    let visit := detection.innerVisit outer group tree cursor instruction index
    visit :: innerVisits outer group tree (visit.cursorAfter cursor) rest

/-- The visit of a top-level instruction. Its window are all transfers that were made while it ran. -/
def ownVisit (instruction : Instruction) (outer : Nat) : Visit :=
  let start := detection.countWhile fun transfer => decide (transfer.position.outer < outer)
  let stop := detection.countWhile fun transfer => decide (transfer.position.outer ≤ outer)
  let group := detection.transaction.invokedBy outer
  detection.visit instruction (.topLevel outer) group 0 group.length start stop

/-- The visits of a top-level instruction and of those it invoked. -/
def visitsAt (instruction : Instruction) (outer : Nat) : List Visit :=
  let own := detection.ownVisit instruction outer
  let group := detection.transaction.invokedBy outer
  own :: detection.innerVisits outer group (detection.transaction.invocationTree outer)
    (own.start + own.claimed) group.zipIdx

/-- All visits, in execution order. -/
def visits : List Visit :=
  detection.transaction.instructions.zipIdx.flatMap fun (instruction, outer) =>
    detection.visitsAt instruction outer

/-- All runs, in execution order. -/
def runs : List MatchRun := detection.visits.filterMap (·.run)

/-- The candidates, in execution order. -/
def candidates : List Candidate := detection.runs.filterMap (·.outcome.candidate)

/-- The swaps. A transaction that names no registered program is not looked into. -/
def swaps (blockTime : Timestamp) (blockNumber : Slot) : List SwapRecord :=
  if detection.registry.touches detection.table then
    detection.candidates.filterMap
      (·.record? ⟨detection.transaction.signature, blockTime, blockNumber⟩)
  else []

end Detection

namespace SwapRecord

/-- The addresses whose metadata a stored swap calls for: its token and its pool. -/
def lookups (swap : SwapRecord) : List Address := [swap.token, swap.pair]

end SwapRecord

namespace Transaction

/-- The swaps of a transaction. -/
def swaps (transaction : Transaction) (registry : Registry) (blockTime : Timestamp)
    (blockNumber : Slot) : List SwapRecord :=
  Detection.swaps ⟨registry, transaction, transaction.transfers⟩ blockTime blockNumber

end Transaction

end SwapLedger
