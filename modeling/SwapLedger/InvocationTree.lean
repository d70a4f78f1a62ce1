/-!
# Invocation trees

The inner instructions of one group were invoked by each other; all that is recorded is how deep in
the stack each one ran. The parent of an instruction is the nearest earlier one that ran less deep,
and what an instruction invoked is a contiguous range after it. Where no depth is recorded, all that
follows is taken to be invoked.
-/

namespace SwapLedger

/-- Depths and parents of the instructions of one group. -/
structure InvocationTree where
  /-- The recorded depth of each instruction. -/
  heights : List (Option Nat)
  /-- The parent of each instruction. -/
  parents : List (Option Nat)
  deriving DecidableEq

namespace InvocationTree

/-- Drops the open invocations that are not less deep than `height`. -/
def enclosing (height : Nat) (opened : List (Nat × Nat)) : List (Nat × Nat) :=
  opened.dropWhile fun entry => decide (height ≤ entry.2)

/-- The parents of the instructions from `index` on, given the invocations still open, innermost
first. -/
def parentsFrom (index : Nat) (opened : List (Nat × Nat)) : List (Option Nat) → List (Option Nat)
  | [] => []
  | none :: rest => none :: parentsFrom (index + 1) opened rest
  | some height :: rest =>
    let opened := enclosing height opened
    opened.head?.map (·.1) :: parentsFrom (index + 1) ((index, height) :: opened) rest

/-- The tree of a group with these depths. -/
def build (heights : List (Option Nat)) : InvocationTree :=
  ⟨heights, parentsFrom 0 [] heights⟩

variable (tree : InvocationTree)

/-- The parent of an instruction. -/
def parent? (index : Nat) : Option Nat := tree.parents[index]?.join

/-- The recorded depth of an instruction. -/
def height? (index : Nat) : Option Nat := tree.heights[index]?.join

/-- Whether the chain of parents above `index` reaches `ancestor`; `fuel` bounds its length. -/
def reaches (ancestor : Nat) : (fuel index : Nat) → Bool
  | 0, _ => false
  | fuel + 1, index =>
    match tree.parent? index with
    | none => false
    | some parent => parent == ancestor || reaches ancestor fuel parent

/-- Whether `ancestor` invoked `index`, directly or through others. A chain of parents has no more
links than there are instructions. -/
def isInvokedBy (index ancestor : Nat) : Bool := tree.reaches ancestor tree.parents.length index

/-- How many instructions from `start` on were invoked by `ancestor`, without a gap. -/
def invokedCount (ancestor : Nat) : (fuel start : Nat) → Nat
  | 0, _ => 0
  | fuel + 1, start =>
    if start < tree.parents.length ∧ tree.isInvokedBy start ancestor then
      invokedCount ancestor fuel (start + 1) + 1
    else 0

/-- The range of instructions that one invoked, as its first place and the place after its last. -/
def descendants (index : Nat) : Nat × Nat :=
  let count := tree.parents.length
  let start := min (index + 1) count
  match tree.height? index with
  | none => (start, count)
  | some _ => (start, start + tree.invokedCount index count start)

end InvocationTree

end SwapLedger
