import Mathlib.Algebra.Group.Nat.Defs
import Mathlib.Data.List.Basic
import SwapLedger.Job.Turn
import SwapLedger.Proofs.Discipline
import SwapLedger.SlotRange

/-!
# Ranges of backfills

The ranges into which slots are grouped give the slots back, in their order. Of ascending slots the
ranges ascend as well, and between any two of them some slot is left out, so that no two could be
joined. A backfill of a range asks the nodes for each slot of the range in its turn, unless it is
told to stop; how the slots fare does not matter.
-/

namespace SwapLedger

namespace SlotRange

/-- Whether a range comes before another and does not touch it. -/
def Before (earlier later : SlotRange) : Prop := earlier.last.toNat + 1 < later.first.toNat

theorem mem_slots_iff {range : SlotRange} {slot : Slot} :
    slot ∈ range.slots ↔ range.first ≤ slot ∧ slot ≤ range.last := by
  have bounded := range.last.toNat_lt
  simp only [slots, List.mem_map, List.mem_range, UInt64.le_iff_toNat_le]
  constructor
  · rintro ⟨offset, inside, rfl⟩
    rw [UInt64.toNat_ofNat', Nat.mod_eq_of_lt (by omega)]
    omega
  · rintro ⟨above, below⟩
    refine ⟨slot.toNat - range.first.toNat, by omega, ?_⟩
    rw [Nat.add_sub_cancel' above, UInt64.ofNat_toNat]

theorem slots_of_lt {range : SlotRange} (inverted : range.last < range.first) :
    range.slots = [] := by
  have := UInt64.lt_iff_toNat_lt.mp inverted
  rw [slots, Nat.sub_eq_zero_of_le (by omega)]
  rfl

theorem slots_single (slot : Slot) : slots ⟨slot, slot⟩ = [slot] := by
  simp [slots]

theorem slots_cons {slot first last : Slot} (next : slot.toNat + 1 = first.toNat)
    (ordered : first ≤ last) : slots ⟨slot, last⟩ = slot :: slots ⟨first, last⟩ := by
  rw [UInt64.le_iff_toNat_le] at ordered
  have count : last.toNat + 1 - slot.toNat = (last.toNat + 1 - first.toNat) + 1 := by omega
  simp only [slots, count, List.range_succ_eq_map, List.map_cons, List.map_map, Nat.add_zero,
    UInt64.ofNat_toNat, List.cons.injEq, true_and]
  refine List.map_congr_left fun offset _ => ?_
  rw [Function.comp_apply, ← next, Nat.succ_eq_add_one]
  congr 1
  omega

/-- Consecutive slots are the first one and those from the next one on. Behind the greatest slot
comes zero, but then no slots are left. -/
theorem map_range_succ (slot : Slot) (count : Nat) (bounded : slot.toNat + (count + 1) ≤ 2 ^ 64) :
    (List.range (count + 1)).map (fun offset => UInt64.ofNat (slot.toNat + offset)) =
      slot :: (List.range count).map fun offset => UInt64.ofNat ((slot + 1).toNat + offset) := by
  have next : (slot + 1).toNat = (slot.toNat + 1) % 2 ^ 64 := UInt64.toNat_add slot 1
  rw [List.range_succ_eq_map, List.map_cons, List.map_map, Nat.add_zero, UInt64.ofNat_toNat]
  refine congrArg (slot :: ·) (List.map_congr_left fun offset inside => ?_)
  have inside := List.mem_range.mp inside
  rw [Function.comp_apply, next, Nat.mod_eq_of_lt (by omega), Nat.succ_eq_add_one,
    Nat.add_right_comm, Nat.add_assoc slot.toNat]

/-- The first of the ranges begins with the first slot. -/
theorem exists_group_cons (slot : Slot) (rest : List Slot) :
    ∃ last others, group (slot :: rest) = ⟨slot, last⟩ :: others := by
  rw [group]
  split
  · exact ⟨slot, [], rfl⟩
  · split_ifs
    · exact ⟨_, _, rfl⟩
    · exact ⟨_, _, rfl⟩

/-- How slots are grouped, from the last one on: a slot joins the range that begins with the next
slot, or stands for itself. -/
inductive Groups : List Slot → List SlotRange → Prop where
  | nothing : Groups [] []
  | alone (slot : Slot) : Groups [slot] [⟨slot, slot⟩]
  | joined {slot first last : Slot} {rest : List Slot} {others : List SlotRange}
      (next : slot.toNat + 1 = first.toNat)
      (grouped : Groups (first :: rest) (⟨first, last⟩ :: others)) :
      Groups (slot :: first :: rest) (⟨slot, last⟩ :: others)
  | apart {slot first last : Slot} {rest : List Slot} {others : List SlotRange}
      (gap : slot.toNat + 1 ≠ first.toNat)
      (grouped : Groups (first :: rest) (⟨first, last⟩ :: others)) :
      Groups (slot :: first :: rest) (⟨slot, slot⟩ :: ⟨first, last⟩ :: others)

theorem groups_group (slots : List Slot) : Groups slots (group slots) := by
  induction slots with
  | nil => exact .nothing
  | cons slot rest ih =>
      cases rest with
      | nil => exact .alone slot
      | cons first rest =>
          rcases exists_group_cons first rest with ⟨last, others, grouped⟩
          rw [grouped] at ih
          rw [group, grouped]
          by_cases next : slot.toNat + 1 = first.toNat
          · simp only [next, if_true]
            exact .joined next ih
          · simp only [next, if_false]
            exact .apart next ih

variable {slots : List Slot} {ranges : List SlotRange}

theorem Groups.first_le_last (groups : Groups slots ranges) :
    ∀ range ∈ ranges, range.first ≤ range.last := by
  induction groups with
  | nothing => exact nofun
  | alone slot => exact List.forall_mem_singleton.mpr (UInt64.le_refl slot)
  | joined next _ ih =>
      rw [List.forall_mem_cons] at ih ⊢
      refine ⟨?_, ih.2⟩
      have ordered := ih.1
      rw [UInt64.le_iff_toNat_le] at ordered ⊢
      simp only at ordered ⊢
      omega
  | apart _ _ ih => exact List.forall_mem_cons.mpr ⟨UInt64.le_refl _, ih⟩

/-- The ranges list the slots that they group. -/
theorem Groups.flatMap_slots (groups : Groups slots ranges) :
    ranges.flatMap SlotRange.slots = slots := by
  induction groups with
  | nothing => rfl
  | alone slot => simp [slots_single]
  | joined next grouped ih =>
      rw [List.flatMap_cons] at ih ⊢
      rw [slots_cons next (grouped.first_le_last _ List.mem_cons_self), List.cons_append, ih]
  | apart _ _ ih => rw [List.flatMap_cons, ih, slots_single, List.singleton_append]

/-- Between any two ranges of ascending slots some slot is left out. Of the earlier range only the
last slot counts. -/
theorem Groups.pairwise_before (groups : Groups slots ranges)
    (ascending : slots.Pairwise (· < ·)) : ranges.Pairwise Before := by
  induction groups with
  | nothing => exact .nil
  | alone slot => exact List.pairwise_singleton _ _
  | joined _ _ ih =>
      have later := List.pairwise_cons.mp (ih (List.pairwise_cons.mp ascending).2)
      exact List.pairwise_cons.mpr ⟨later.1, later.2⟩
  | @apart slot first last rest others gap grouped ih =>
      have later := ih (List.pairwise_cons.mp ascending).2
      have lower := (List.pairwise_cons.mp ascending).1 first List.mem_cons_self
      have ordered := grouped.first_le_last _ List.mem_cons_self
      rw [UInt64.lt_iff_toNat_lt] at lower
      rw [UInt64.le_iff_toNat_le] at ordered
      refine List.pairwise_cons.mpr ⟨List.forall_mem_cons.mpr ⟨?_, ?_⟩, later⟩
      · simp only [Before]
        omega
      · intro range member
        have := (List.pairwise_cons.mp later).1 range member
        simp only [Before] at this ordered ⊢
        omega

end SlotRange

namespace Backfill

/-- The slot whose block a call asks a node for. -/
def requested? : AnsweredCall Services → Option Slot
  | ⟨.node _ (.block slot), _⟩ => some slot
  | _ => none

/-- What matters of a backfill is which blocks it asks for. -/
def requesting : Discipline Services Slot Unit := ⟨requested?, fun _ _ _ => True⟩

/-- Whether a program that is not told to stop asks for the blocks of some slots, whatever else it
is answered. -/
def Requests {Result : Type} (program : Program Services Result) (slots : List Slot) : Prop :=
  ∀ (answers : Nat → (request : Request Services) → request.Answer),
    (∀ number, answers number .stopRequested = false) → ∀ number,
      requesting.events (program.run answers number).1 = slots

variable {Result Other : Type} {slots : List Slot}

theorem requests_of_silent {program : Program Services Result}
    (silent : program.Silent requesting) : Requests program [] :=
  fun answers _ number => silent.events_run answers number

theorem Requests.bind {more : List Slot} {program : Program Services Result}
    {next : Result → Program Services Other} (requests : Requests program slots)
    (later : ∀ result, Requests (next result) more) :
    Requests (program >>= next) (slots ++ more) := by
  intro answers undisturbed number
  rcases Program.exists_run_bind answers program next number with ⟨number', run⟩
  rw [run, Discipline.events, List.filterMap_append]
  exact congrArg₂ (· ++ ·) (requests answers undisturbed number)
    (later _ answers undisturbed number')

theorem requests_silent_bind {program : Program Services Result}
    {next : Result → Program Services Other} (silent : program.Silent requesting)
    (later : ∀ result, Requests (next result) slots) : Requests (program >>= next) slots :=
  (requests_of_silent silent).bind later

theorem Requests.bind_silent {program : Program Services Result}
    {next : Result → Program Services Other} (requests : Requests program slots)
    (silent : ∀ result, (next result).Silent requesting) : Requests (program >>= next) slots := by
  rw [← List.append_nil slots]
  exact requests.bind fun result => requests_of_silent (silent result)

theorem silent_publishAll {slot : Slot} {items : List WorkItem} {report : BackfillReport} :
    (publishAll slot items report).Silent requesting := by
  induction items generalizing report with
  | nil => exact Program.silent_pure
  | cons item rest ih =>
      refine (Program.silent_call fun _ => rfl).bind ?_
      rintro (failure | ⟨⟩)
      · exact (Program.silent_request rfl).bind fun _ => ih
      · exact ih

/-- A slot is asked for once, and nothing else is. -/
theorem requests_fetchSlot {clients : Nat} {slot : Slot} {report : BackfillReport} :
    Requests (fetchSlot clients slot report) [slot] := by
  have giveUp (entry : LogEntry) (report : BackfillReport) :
      (Program.report entry >>= fun _ => pure report).Silent requesting :=
    (Program.silent_request rfl).bind fun _ => Program.silent_pure
  have nextClient : (nextClient clients).Silent requesting :=
    (Program.silent_call fun _ => rfl).bind fun _ => Program.silent_pure
  have asked (client : Nat) : Requests (Services.node client (.block slot)) [slot] :=
    fun _ _ _ => rfl
  rw [fetchSlot]
  refine requests_silent_bind nextClient fun client => (asked client).bind_silent fun answer => ?_
  rcases answer with failure | block
  · cases failure <;> exact giveUp _ _
  · refine (Program.silent_call fun _ => rfl).bind ?_
    rintro (failure | ⟨⟩)
    · exact giveUp _ _
    · exact Program.silent_reportAll.bind fun _ => silent_publishAll

theorem requests_unlessTold {next : Bool → Program Services Result}
    (later : Requests (next false) slots) : Requests (Program.stopRequested >>= next) slots := by
  intro answers undisturbed number
  change requesting.events ((next (answers number .stopRequested)).run answers (number + 1)).1 = _
  rw [undisturbed number]
  exact later answers undisturbed (number + 1)

theorem requests_fetchSlots {clients : Nat} (count : Nat) (slot : Slot) (report : BackfillReport)
    (bounded : slot.toNat + count ≤ 2 ^ 64) :
    Requests (fetchSlots clients count slot report)
      ((List.range count).map fun offset => .ofNat (slot.toNat + offset)) := by
  induction count generalizing slot report with
  | zero => exact requests_of_silent Program.silent_pure
  | succ count ih =>
      rw [SlotRange.map_range_succ slot count bounded]
      refine requests_unlessTold (requests_fetchSlot.bind fun report => ih (slot + 1) report ?_)
      have next : (slot + 1).toNat = (slot.toNat + 1) % 2 ^ 64 := UInt64.toNat_add slot 1
      omega

/-- A backfill of a range asks for its slots, one after the other. -/
theorem requests_turn {configuration : Configuration} {range : SlotRange}
    (ordered : range.first ≤ range.last) (nonzero : range.last ≠ 0) :
    Requests ((Job.backfill range.first range.last).turn configuration) range.slots := by
  have bounded := range.last.toNat_lt
  have ordered' := UInt64.le_iff_toNat_le.mp ordered
  have fetched : Requests (fetchRange configuration.rpcUrls.length range.first range.last)
      range.slots := by
    rw [fetchRange, if_neg (UInt64.not_lt.mpr ordered)]
    refine requests_silent_bind (Program.silent_request rfl) fun _ => ?_
    refine (requests_fetchSlots _ range.first .zero (by omega)).bind_silent fun report => ?_
    exact (Program.silent_request rfl).bind fun _ => Program.silent_pure
  refine Requests.bind_silent ?_ fun _ => Program.silent_pure
  refine Requests.bind_silent ?_ fun outcome => ?_
  · rw [run, if_neg nonzero]
    exact fetched.bind_silent fun _ => Program.silent_pure
  · cases outcome with
    | ok report => exact Program.silent_pure
    | error failure => exact Program.silent_request rfl

end Backfill

end SwapLedger
