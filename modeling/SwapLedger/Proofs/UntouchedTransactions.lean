import SwapLedger.Detection.Log
import SwapLedger.Proofs.Windows

/-!
# Transactions that touch no exchange

A transaction is looked into only if some account of its table is registered. Nothing is lost by
that. An instruction names its program by a number in the same table, wherever it stands and from
wherever the account was loaded; so where no account is registered, no gate is asked and no matcher
runs, and looking into the transaction all the same finds no swap and asks for no metadata.
-/

namespace SwapLedger

/-- Judges candidates one after the other. Every swap asks for the metadata of what it traded before
the next candidate is judged. -/
def Occasion.judge (occasion : Occasion) : List Candidate → List SwapRecord × List Address
  | [] => ([], [])
  | candidate :: rest =>
    let (swaps, asked) := occasion.judge rest
    match candidate.record? occasion with
    | none => (swaps, asked)
    | some swap => (swap :: swaps, swap.lookups ++ asked)

theorem Occasion.judge_eq (occasion : Occasion) (candidates : List Candidate) :
    occasion.judge candidates = (candidates.filterMap (·.record? occasion),
      (candidates.filterMap (·.record? occasion)).flatMap (·.lookups)) := by
  induction candidates with
  | nil => rfl
  | cons candidate rest ih =>
      rw [judge, ih]
      cases judged : candidate.record? occasion with
      | none => simp only [List.filterMap_cons, judged]
      | some swap => simp only [List.filterMap_cons, judged, List.flatMap_cons]

theorem Registry.touches_of_get? {registry : Registry} {table : AccountTable} {program : Address}
    {entry : RegistryEntry} (named : program ∈ table)
    (registered : registry.get? program = some entry) : registry.touches table = true := by
  rw [touches, List.any_eq_true]
  refine ⟨program, named, ?_⟩
  rw [supports, registered, Option.isSome_some]

namespace Instruction

variable {instruction : Instruction} {table : AccountTable} {program : Address}

/-- The program of an instruction is one of the accounts of the table. -/
theorem mem_of_programAddress? (named : instruction.programAddress? table = some program) :
    program ∈ table :=
  List.mem_of_getElem? named

end Instruction

namespace Detection

variable (detection : Detection) {instruction : Instruction}

/-- The search without the look at the account table: every instruction is visited, and what the
matchers find is judged. -/
def search (blockTime : Timestamp) (blockNumber : Slot) : List SwapRecord × List Address :=
  Occasion.judge ⟨detection.transaction.signature, blockTime, blockNumber⟩ detection.candidates

variable {detection}

/-- Only in a transaction that touches an exchange does a matcher get an instruction. -/
theorem touches_of_reading? {entry : RegistryEntry}
    (reads : detection.reading? instruction = some entry) :
    detection.registry.touches detection.table = true := by
  rcases reading?_eq_some.mp reads with ⟨program, named, registered, _⟩
  exact Registry.touches_of_get? (Instruction.mem_of_programAddress? named) registered

theorem touches_of_mem_runs {run : MatchRun} (member : run ∈ detection.runs) :
    detection.registry.touches detection.table = true := by
  rw [runs, List.mem_filterMap] at member
  rcases member with ⟨visit, visited, ran⟩
  rcases fits_of_mem_visits visited with ⟨instruction, fits⟩
  rcases run?_eq_some.mp (fits.ran ▸ ran) with ⟨entry, reads, _⟩
  exact touches_of_reading? reads

/-- Nor does a gate turn an instruction away anywhere else. -/
theorem touches_of_rejected {entry : LogEntry}
    (rejected : detection.rejectionEntry? instruction = some entry) :
    detection.registry.touches detection.table = true := by
  unfold rejectionEntry? at rejected
  simp only [Option.bind_eq_bind, Option.bind_eq_some_iff] at rejected
  rcases rejected with ⟨program, named, entry, registered, _⟩
  exact Registry.touches_of_get? (Instruction.mem_of_programAddress? named) registered

theorem runs_eq_nil (untouched : detection.registry.touches detection.table = false) :
    detection.runs = [] := by
  refine List.eq_nil_iff_forall_not_mem.mpr fun run member => ?_
  exact Bool.false_ne_true (untouched.symm.trans (touches_of_mem_runs member))

theorem rejections_eq_nil (untouched : detection.registry.touches detection.table = false)
    (instructions : List Instruction) :
    instructions.filterMap detection.rejectionEntry? = [] := by
  refine List.filterMap_eq_nil_iff.mpr fun instruction _ => ?_
  by_contra rejected
  rcases Option.ne_none_iff_exists'.mp rejected with ⟨entry, rejected⟩
  exact Bool.false_ne_true (untouched.symm.trans (touches_of_rejected rejected))

/-- Whatever the registry, the transaction and the list of its transfers are, the search that looks
into every transaction finds the same swaps in the same order, and asks for the same metadata, as
the one that first looks at the account table. Where that one stops, there is no instruction for
which a matcher runs or that a gate turns away. -/
theorem search_eq_swaps (detection : Detection) (blockTime : Timestamp) (blockNumber : Slot) :
    detection.search blockTime blockNumber =
        (detection.swaps blockTime blockNumber,
          (detection.swaps blockTime blockNumber).flatMap (·.lookups)) ∧
      (detection.registry.touches detection.table = true ∨
        detection.runs = [] ∧
          detection.transaction.executed.filterMap detection.rejectionEntry? = []) := by
  cases touched : detection.registry.touches detection.table with
  | true =>
      rw [search, Occasion.judge_eq, swaps, if_pos touched]
      exact ⟨rfl, .inl rfl⟩
  | false =>
      have idle := runs_eq_nil touched
      have nothing : detection.candidates = [] := by rw [candidates, idle, List.filterMap_nil]
      rw [search, nothing, swaps, touched]
      exact ⟨rfl, .inr ⟨idle, rejections_eq_nil touched _⟩⟩

end Detection

end SwapLedger
