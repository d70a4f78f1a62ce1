import Mathlib.Data.List.Chain
import Mathlib.Data.List.Induction
import SwapLedger.Proofs.BackfillRanges

/-!
# Grouping of slots

Slots can be grouped as they come, each being taken up by the last range if it is the next one, and
by a range of its own if not. The ranges list just the slots that were grouped, in their order, and
no range could go on with the one behind it, so that no other ranges list the same slots and are as
few. None of this asks for ascending slots, and behind the greatest slot nothing comes next.
-/

namespace SwapLedger

namespace SlotRange

variable {slot first last : Slot} {rest slots : List Slot} {ranges : List SlotRange}

/-! ## One slot after the other -/

/-- The ranges with one more slot at the end. The last range takes it up if it is the next one. -/
def takeUp : List SlotRange → Slot → List SlotRange
  | [], slot => [⟨slot, slot⟩]
  | [range], slot =>
    if range.last.toNat + 1 = slot.toNat then [⟨range.first, slot⟩] else [range, ⟨slot, slot⟩]
  | range :: next :: others, slot => range :: takeUp (next :: others) slot

/-- A slot in front and one at the end do not get into each other's way. -/
theorem group_concat (slots : List Slot) (slot : Slot) :
    group (slots ++ [slot]) = takeUp (group slots) slot := by
  induction slots with
  | nil => rfl
  | cons earlier rest ih =>
      rw [List.cons_append, group, group, ih]
      rcases group rest with _ | ⟨range, _ | ⟨next, others⟩⟩
      · simp only [takeUp]
      · by_cases joins : range.last.toNat + 1 = slot.toNat <;>
          by_cases starts : earlier.toNat + 1 = range.first.toNat <;>
            simp [takeUp, joins, starts]
      · by_cases starts : earlier.toNat + 1 = range.first.toNat <;> simp [takeUp, starts]

/-- Slots can be grouped as they come. -/
theorem group_eq_foldl (slots : List Slot) : group slots = slots.foldl takeUp [] := by
  induction slots using List.reverseRecOn with
  | nil => rfl
  | append_singleton earlier slot ih => rw [group_concat, ih, List.foldl_concat]

/-! ## The fewest ranges -/

/-- A range cannot go on with another. -/
def Apart (earlier later : SlotRange) : Prop := earlier.last.toNat + 1 ≠ later.first.toNat

/-- No range of a grouping could go on with the one behind it. -/
theorem Groups.isChain_apart (groups : Groups slots ranges) : ranges.IsChain Apart := by
  induction groups with
  | nothing => exact .nil
  | alone slot => exact .singleton _
  | @joined _ _ _ _ others _ _ ih =>
      cases others with
      | nil => exact .singleton _
      | cons next others =>
          rw [List.isChain_cons_cons] at ih ⊢
          exact ih
  | apart gap _ ih => exact .cons_cons gap ih

theorem flatMap_slots_filter (ranges : List SlotRange) :
    (ranges.filter fun range => decide (range.first ≤ range.last)).flatMap SlotRange.slots =
      ranges.flatMap SlotRange.slots := by
  induction ranges with
  | nil => rfl
  | cons range others ih =>
      by_cases ordered : range.first ≤ range.last
      · simp [ordered, ih]
      · simp [ordered, ih, slots_of_lt (UInt64.not_le.mp ordered)]

/-- A range lists its first slot, and then either nothing or all from the next slot on. -/
theorem slots_cases (ordered : first ≤ last) :
    last = first ∨ ∃ next : Slot, first.toNat + 1 = next.toNat ∧ next ≤ last ∧
      SlotRange.slots ⟨first, last⟩ = first :: SlotRange.slots ⟨next, last⟩ := by
  by_cases single : last = first
  · exact Or.inl single
  · have ordered' := UInt64.le_iff_toNat_le.mp ordered
    have first_ne : first.toNat ≠ last.toNat := fun same => single (UInt64.toNat_inj.mp same.symm)
    have bounded := last.toNat_lt
    have next_eq : first.toNat + 1 = (first + 1).toNat := by
      rw [UInt64.toNat_add, UInt64.toNat_one, Nat.mod_eq_of_lt (by omega)]
    have next_le : first + 1 ≤ last := by
      rw [UInt64.le_iff_toNat_le]
      omega
    exact Or.inr ⟨first + 1, next_eq, next_le, slots_cons next_eq next_le⟩

theorem exists_slots_eq_cons (ordered : first ≤ last) :
    ∃ rest, SlotRange.slots ⟨first, last⟩ = first :: rest := by
  rcases slots_cases ordered with rfl | ⟨next, _, _, slots_eq⟩
  · exact ⟨[], slots_single last⟩
  · exact ⟨_, slots_eq⟩

/-- Ranges that list a slot and others begin with a range that begins with the slot. The slot is the
whole of that range, or the range goes on with the next slot. -/
theorem exists_of_flatMap_slots_eq_cons (ordered : ∀ range ∈ ranges, range.first ≤ range.last)
    (listed : ranges.flatMap SlotRange.slots = slot :: rest) :
    ∃ last others, ranges = ⟨slot, last⟩ :: others ∧
      (last = slot ∧ others.flatMap SlotRange.slots = rest ∨
        ∃ next : Slot, slot.toNat + 1 = next.toNat ∧ next ≤ last ∧
          (⟨next, last⟩ :: others).flatMap SlotRange.slots = rest) := by
  cases ranges with
  | nil => simp at listed
  | cons range others =>
      rcases range with ⟨first, last⟩
      have first_le : first ≤ last := ordered ⟨first, last⟩ List.mem_cons_self
      rw [List.flatMap_cons] at listed
      rcases slots_cases first_le with rfl | ⟨next, next_eq, next_le, slots_eq⟩
      · rw [slots_single, List.singleton_append] at listed
        rcases List.cons.inj listed with ⟨rfl, listedRest⟩
        exact ⟨last, others, rfl, Or.inl ⟨rfl, listedRest⟩⟩
      · rw [slots_eq, List.cons_append, ← List.flatMap_cons] at listed
        rcases List.cons.inj listed with ⟨rfl, listedRest⟩
        exact ⟨last, others, rfl, Or.inr ⟨next, next_eq, next_le, listedRest⟩⟩

/-- Other ranges that list the same slots are no fewer, and as few only if they are the same. The
induction takes the first slot off a listing, which leaves one of the other slots, with one range
less where the slot was a range of its own. -/
theorem Groups.shortest_of_ordered (groups : Groups slots ranges) {listing : List SlotRange}
    (ordered : ∀ range ∈ listing, range.first ≤ range.last)
    (listed : listing.flatMap SlotRange.slots = slots) :
    ranges.length ≤ listing.length ∧ (listing.length = ranges.length → listing = ranges) := by
  induction groups generalizing listing with
  | nothing => exact ⟨Nat.zero_le _, List.eq_nil_of_length_eq_zero⟩
  | alone slot =>
      rcases exists_of_flatMap_slots_eq_cons ordered listed with
        ⟨last, tail, rfl, ⟨rfl, _⟩ | ⟨next, _, next_le, listedRest⟩⟩
      · refine ⟨Nat.succ_le_succ (Nat.zero_le _), fun same => ?_⟩
        rw [List.eq_nil_of_length_eq_zero (Nat.succ.inj same)]
      · rcases exists_slots_eq_cons next_le with ⟨more, slots_eq⟩
        simp [slots_eq] at listedRest
  | @joined slot first last rest others next grouped ih =>
      rcases exists_of_flatMap_slots_eq_cons ordered listed with
        ⟨listedLast, tail, rfl, ⟨rfl, listedRest⟩ | ⟨goesOn, goesOn_eq, goesOn_le, listedRest⟩⟩
      · have shorter := (ih (List.forall_mem_cons.mp ordered).2 listedRest).1
        simp only [List.length_cons] at shorter ⊢
        exact ⟨by omega, by omega⟩
      · have same : goesOn = first := UInt64.toNat_inj.mp (goesOn_eq.symm.trans next)
        subst same
        have rest := ih (List.forall_mem_cons.mpr
          ⟨goesOn_le, (List.forall_mem_cons.mp ordered).2⟩) listedRest
        refine ⟨rest.1, fun sameLength => ?_⟩
        simpa using rest.2 sameLength
  | @apart slot first last rest others gap grouped ih =>
      rcases exists_of_flatMap_slots_eq_cons ordered listed with
        ⟨listedLast, tail, rfl, ⟨rfl, listedRest⟩ | ⟨goesOn, goesOn_eq, goesOn_le, listedRest⟩⟩
      · have rest := ih (List.forall_mem_cons.mp ordered).2 listedRest
        refine ⟨Nat.succ_le_succ rest.1, fun sameLength => ?_⟩
        rw [rest.2 (Nat.succ.inj sameLength)]
      · rcases exists_slots_eq_cons goesOn_le with ⟨more, slots_eq⟩
        rw [List.flatMap_cons, slots_eq, List.cons_append] at listedRest
        rw [(List.cons.inj listedRest).1] at goesOn_eq
        exact absurd goesOn_eq gap

/-- The same of listings with ranges that end before they begin, which list nothing. -/
theorem Groups.shortest (groups : Groups slots ranges) {listing : List SlotRange}
    (listed : listing.flatMap SlotRange.slots = slots) :
    ranges.length ≤ listing.length ∧ (listing.length = ranges.length → listing = ranges) := by
  have shorter_le := (groups.shortest_of_ordered (fun range member =>
    of_decide_eq_true (List.mem_filter.mp member).2)
    ((flatMap_slots_filter listing).trans listed)).1
  have filter_le := listing.length_filter_le fun range => decide (range.first ≤ range.last)
  refine ⟨shorter_le.trans filter_le, fun sameLength => ?_⟩
  have allOrdered : ∀ range ∈ listing, decide (range.first ≤ range.last) := by
    rw [← List.length_filter_eq_length_iff]
    omega
  exact (groups.shortest_of_ordered (by simpa using allOrdered) listed).2 sameLength

/-- Grouping is what taking up one slot after the other comes to. The ranges list the slots, none
ends before it begins, and none could go on with the one behind it. They are the only ranges that
list the slots and are as few, and none that do are fewer. -/
theorem group_shortest (slots : List Slot) :
    group slots = slots.foldl takeUp [] ∧
      (group slots).flatMap SlotRange.slots = slots ∧
      (∀ range ∈ group slots, range.first ≤ range.last) ∧
      (group slots).IsChain Apart ∧
      ∀ listing : List SlotRange, listing.flatMap SlotRange.slots = slots →
        (group slots).length ≤ listing.length ∧
          (listing.length = (group slots).length → listing = group slots) := by
  have groups := groups_group slots
  exact ⟨group_eq_foldl slots, groups.flatMap_slots, groups.first_le_last, groups.isChain_apart,
    fun _ listed => groups.shortest listed⟩

/-- The two greatest slots, the two smallest ones, and both of these once more, the wrong way
around. -/
def edgeSlots : List Slot := [18446744073709551614, 18446744073709551615, 0, 1, 1, 0]

/-- Behind the greatest slot nothing comes next, nor does a slot behind itself. A listing of each
slot by itself is no shorter. -/
theorem group_shortest_edge :
    group edgeSlots =
      [⟨18446744073709551614, 18446744073709551615⟩, ⟨0, 1⟩, ⟨1, 1⟩, ⟨0, 0⟩] ∧
      (edgeSlots.map fun slot => ⟨slot, slot⟩).flatMap SlotRange.slots = edgeSlots ∧
      (group edgeSlots).length ≤ (edgeSlots.map fun slot => SlotRange.mk slot slot).length := by
  have listed : (edgeSlots.map fun slot => SlotRange.mk slot slot).flatMap SlotRange.slots =
      edgeSlots := by
    decide +kernel
  rcases group_shortest edgeSlots with ⟨_, _, _, _, shortest⟩
  exact ⟨by decide +kernel, listed, (shortest _ listed).1⟩

end SlotRange

end SwapLedger
