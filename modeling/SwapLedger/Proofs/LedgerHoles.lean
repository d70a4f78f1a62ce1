import Mathlib.Data.List.Perm.Basic
import SwapLedger.SwapStore
import SwapLedger.Tables

/-!
# Holes in the ledger

The ledger of processed blocks is kept in ascending order, and no number enters it twice. A slot
that is not in it, while a lower and a higher one are, is found among the missing ones.
-/

namespace SwapLedger

namespace Tables

/-- The number under which a slot stands in the ledger. -/
abbrev ledgerNumber (slot : Slot) : Int := Statement.integer slot.toNat

/-- The tables after a slot has been entered into the ledger. -/
def mark (tables : Tables) (slot : Slot) : Tables :=
  (tables.apply 0 [] (.mark (ledgerNumber slot))).2.1

/-- The slots that are missing from the ledger. -/
def missing (tables : Tables) : List Slot := SwapStore.slots (tables.apply 0 [] .findMissing).1

theorem mem_insertAscending {value other : Int} {numbers : List Int} :
    other ∈ insertAscending value numbers ↔ other = value ∨ other ∈ numbers := by
  induction numbers with
  | nil => simp [insertAscending]
  | cons first rest ih =>
      rw [insertAscending]
      split_ifs with same before
      · simp [same]
      · simp
      · rw [List.mem_cons, List.mem_cons, ih]
        tauto

theorem pairwise_insertAscending {value : Int} {numbers : List Int}
    (ascending : numbers.Pairwise (· < ·)) : (insertAscending value numbers).Pairwise (· < ·) := by
  induction numbers with
  | nil => simp [insertAscending]
  | cons first rest ih =>
      rw [List.pairwise_cons] at ascending
      rw [insertAscending]
      split_ifs with same before
      · exact List.pairwise_cons.mpr ascending
      · refine List.pairwise_cons.mpr ⟨?_, List.pairwise_cons.mpr ascending⟩
        intro other member
        rcases List.mem_cons.mp member with rfl | later
        · exact before
        · exact Int.lt_trans before (ascending.1 other later)
      · refine List.pairwise_cons.mpr ⟨?_, ih ascending.2⟩
        intro other member
        rcases mem_insertAscending.mp member with rfl | later
        · omega
        · exact ascending.1 other later

/-- Between two numbers lie those that are greater than the one and less than the other. -/
theorem mem_between {low high value : Int} :
    value ∈ between low high ↔ low < value ∧ value < high := by
  simp only [between, List.mem_map, List.mem_range]
  constructor
  · rintro ⟨offset, inside, rfl⟩
    simp only [Int.ofNat_eq_natCast]
    omega
  · rintro ⟨above, below⟩
    exact ⟨(value - low - 1).toNat, by omega, by simp only [Int.ofNat_eq_natCast]; omega⟩

/-- The numbers that an ascending list passes over are those between its first and its last that are
not in it. -/
theorem mem_passedOver {numbers : List Int} (ascending : numbers.Pairwise (· < ·)) {value : Int} :
    value ∈ passedOver numbers ↔
      value ∉ numbers ∧ (∃ low ∈ numbers, low < value) ∧ ∃ high ∈ numbers, value < high := by
  induction numbers with
  | nil => simp [passedOver]
  | cons low rest ih =>
      cases rest with
      | nil =>
          simp only [passedOver, List.not_mem_nil, List.mem_singleton, exists_eq_left, false_iff]
          omega
      | cons high rest =>
          have later := ih (List.pairwise_cons.mp ascending).2
          have low_lt := (List.pairwise_cons.mp ascending).1
          have low_lt_high := low_lt high List.mem_cons_self
          have high_le : ∀ other ∈ high :: rest, high ≤ other := by
            intro other member
            rcases List.mem_cons.mp member with rfl | member
            · exact Int.le_refl _
            · have later := (List.pairwise_cons.mp ascending).2
              exact Int.le_of_lt ((List.pairwise_cons.mp later).1 other member)
          rw [passedOver, List.mem_append, mem_between, later]
          constructor
          · rintro (⟨above, below⟩ | ⟨absent, ⟨smaller, member, above⟩, greater, member', below⟩)
            · refine ⟨?_, ⟨low, List.mem_cons_self, above⟩, high, by simp, below⟩
              intro member
              rcases List.mem_cons.mp member with rfl | member
              · exact Int.lt_irrefl _ above
              · exact Int.not_le.mpr below (high_le value member)
            · refine ⟨?_, ⟨smaller, List.mem_cons_of_mem _ member, above⟩, greater,
                List.mem_cons_of_mem _ member', below⟩
              intro present
              rcases List.mem_cons.mp present with rfl | present
              · exact Int.lt_asymm above (low_lt smaller member)
              · exact absent present
          · rintro ⟨absent, ⟨smaller, member, above⟩, greater, member', below⟩
            rcases Int.lt_trichotomy value high with before | rfl | after
            · left
              refine ⟨?_, before⟩
              rcases List.mem_cons.mp member with rfl | member
              · exact above
              · exact absurd (high_le smaller member) (Int.not_le.mpr (Int.lt_trans above before))
            · exact absurd (List.mem_cons_of_mem _ List.mem_cons_self) absent
            · right
              refine ⟨fun present => absent (List.mem_cons_of_mem _ present),
                ⟨high, List.mem_cons_self, after⟩, ?_⟩
              rcases List.mem_cons.mp member' with rfl | member'
              · exact absurd (Int.lt_trans low_lt_high after) (Int.lt_asymm below)
              · exact ⟨greater, member', below⟩

theorem mem_slots {blocks : List Int} {slot : Slot} (member : (slot.toNat : Int) ∈ blocks) :
    slot ∈ SwapStore.slots blocks := by
  rw [SwapStore.slots, List.mem_filterMap]
  exact ⟨slot.toNat, member, by simp⟩

variable (tables : Tables)

/-- The ledger is as the database keeps it. -/
structure WellLedgered : Prop where
  ascending : tables.processed.Pairwise (· < ·)
  storable : ∀ number ∈ tables.processed, number ≤ Statement.greatestInteger

variable {tables}

theorem mem_mark {slot : Slot} {number : Int} :
    number ∈ (tables.mark slot).processed ↔
      number = ledgerNumber slot ∨ number ∈ tables.processed :=
  mem_insertAscending

/-- Marking a slot keeps the ledger ascending and its numbers those of slots. -/
theorem WellLedgered.mark (wellLedgered : tables.WellLedgered) (slot : Slot) :
    (tables.mark slot).WellLedgered := by
  refine ⟨pairwise_insertAscending wellLedgered.ascending, ?_⟩
  intro number member
  rcases mem_mark.mp member with rfl | member
  · rw [ledgerNumber, Statement.integer]
    omega
  · exact wellLedgered.storable number member

theorem wellLedgered_empty : Tables.empty.WellLedgered := ⟨.nil, nofun⟩

theorem WellLedgered.foldl_mark (wellLedgered : tables.WellLedgered) (slots : List Slot) :
    (slots.foldl Tables.mark tables).WellLedgered := by
  induction slots generalizing tables with
  | nil => exact wellLedgered
  | cons slot rest ih => exact ih (wellLedgered.mark slot)

/-- A slot that is not in the ledger is found missing as soon as the ledger goes beyond it on both
sides. -/
theorem mem_missing (wellLedgered : tables.WellLedgered) {slot : Slot}
    (absent : ledgerNumber slot ∉ tables.processed)
    (below : ∃ low ∈ tables.processed, low < ledgerNumber slot)
    (above : ∃ high ∈ tables.processed, ledgerNumber slot < high) : slot ∈ tables.missing := by
  have exact : ledgerNumber slot = slot.toNat := by
    rcases above with ⟨high, member, greater⟩
    have := wellLedgered.storable high member
    rw [ledgerNumber, Statement.integer] at *
    omega
  refine mem_slots (exact ▸ ?_)
  exact (mem_passedOver wellLedgered.ascending).mpr ⟨absent, below, above⟩

theorem pairwise_between (low high : Int) : (between low high).Pairwise (· < ·) := by
  rw [between, List.pairwise_map]
  refine List.pairwise_lt_range.imp fun {first second} before => ?_
  simp only [Int.ofNat_eq_natCast]
  omega

theorem pairwise_passedOver {numbers : List Int} (ascending : numbers.Pairwise (· < ·)) :
    (passedOver numbers).Pairwise (· < ·) := by
  induction numbers with
  | nil => exact .nil
  | cons low rest ih =>
      cases rest with
      | nil => exact .nil
      | cons high rest =>
          have later := (List.pairwise_cons.mp ascending).2
          refine List.pairwise_append.mpr ⟨pairwise_between low high, ih later, ?_⟩
          intro before inside after beyond
          rcases ((mem_passedOver later).mp beyond).2.1 with ⟨other, member, other_lt⟩
          have high_le : high ≤ other := by
            rcases List.mem_cons.mp member with rfl | member
            · exact Int.le_refl _
            · exact Int.le_of_lt ((List.pairwise_cons.mp later).1 other member)
          exact Int.lt_trans (mem_between.mp inside).2 (Int.lt_of_le_of_lt high_le other_lt)

/-- A number that was passed over and can be read as a slot is the number of that slot. -/
theorem WellLedgered.eq_of_read (wellLedgered : tables.WellLedgered) {number : Int} {slot : Slot}
    (passed : number ∈ passedOver tables.processed)
    (read : (if 0 ≤ number then some (UInt64.ofNat number.toNat) else none) = some slot) :
    number = slot.toNat := by
  rcases ((mem_passedOver wellLedgered.ascending).mp passed).2.2 with ⟨high, member, below⟩
  have storable := wellLedgered.storable high member
  have bound : Statement.greatestInteger < 2 ^ 64 := by decide
  by_cases positive : 0 ≤ number
  · rw [if_pos positive, Option.some.injEq] at read
    rw [← read, UInt64.toNat_ofNat', Nat.mod_eq_of_lt (by omega), Int.toNat_of_nonneg positive]
  · rw [if_neg positive] at read
    cases read

/-- What is found missing are the slots that are not in the ledger, while lower and higher numbers
are. -/
theorem mem_missing_iff (wellLedgered : tables.WellLedgered) {slot : Slot} :
    slot ∈ tables.missing ↔ (slot.toNat : Int) ∉ tables.processed ∧
      (∃ low ∈ tables.processed, low < slot.toNat) ∧
      ∃ high ∈ tables.processed, (slot.toNat : Int) < high := by
  rw [← mem_passedOver wellLedgered.ascending]
  refine ⟨?_, mem_slots⟩
  intro member
  rcases List.mem_filterMap.mp member with ⟨number, passed, read⟩
  exact wellLedgered.eq_of_read passed read ▸ passed

/-- The missing slots ascend. -/
theorem pairwise_missing (wellLedgered : tables.WellLedgered) :
    tables.missing.Pairwise (· < ·) := by
  rw [missing, SwapStore.slots, List.pairwise_filterMap]
  refine (pairwise_passedOver wellLedgered.ascending).imp_of_mem ?_
  intro first second passed passed' before slot read slot' read'
  rw [wellLedgered.eq_of_read passed read, wellLedgered.eq_of_read passed' read'] at before
  exact UInt64.lt_iff_toNat_lt.mpr (Int.ofNat_lt.mp before)

end Tables

end SwapLedger
