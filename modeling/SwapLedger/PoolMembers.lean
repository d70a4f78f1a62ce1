/-!
# The members of a pool

Workers are known by ids that are never given twice. A pool that grows gives the next ids; one that
shrinks stops the workers with the highest ids.
-/

namespace SwapLedger

/-- The workers that belong to a pool. -/
structure PoolMembers where
  /-- The ids of the members, ascending. -/
  ids : List Nat
  /-- The id of the next worker. Ids are counted without a bound, where the machine has words. -/
  nextId : Nat
  deriving DecidableEq

namespace PoolMembers

/-- A pool without workers. -/
def empty : PoolMembers := ⟨[], 0⟩

variable (members : PoolMembers)

/-- How many members there are. -/
def size : Nat := members.ids.length

/-- The ids that are given when the pool grows to a size. -/
def joining (target : Nat) : List Nat :=
  (List.range (target - members.size)).map (members.nextId + ·)

/-- The ids that are stopped when the pool shrinks to a size. -/
def leaving (target : Nat) : List Nat := members.ids.drop target

/-- The pool at a size. -/
def resize (target : Nat) : PoolMembers :=
  ⟨members.ids.take target ++ members.joining target, members.nextId + (target - members.size)⟩

/-- The pool without a worker. -/
def leave (worker : Nat) : PoolMembers := { members with ids := members.ids.filter (· != worker) }

end PoolMembers

end SwapLedger
