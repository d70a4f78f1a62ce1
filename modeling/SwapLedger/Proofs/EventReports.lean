import SwapLedger.Proofs.Agreement

/-!
# Reports of events

The exchange that reports its trades as events has each of its instructions matched with the first
event among the instructions that it invoked. This file says which event that is in terms of the
whole group, so that slices of a group need not be taken apart.
-/

namespace SwapLedger

/-! ## Slices of numbered lists -/

section Slices

variable {α β : Type*}

/-- What is numbered below a bound is found among as many elements, when the numbers start at an
offset. -/
theorem filterMap_zipIdx_take (read : α × Nat → Option β) (list : List α) (offset count : Nat) :
    ((list.take count).zipIdx offset).filterMap read =
      (list.zipIdx offset).filterMap fun entry =>
        if entry.2 < offset + count then read entry else none := by
  induction list generalizing offset count with
  | nil => simp
  | cons head rest ih =>
      cases count with
      | zero =>
          symm
          simp only [List.take_zero, List.zipIdx_nil, List.filterMap_nil, List.filterMap_eq_nil_iff]
          intro entry member
          have le := List.le_snd_of_mem_zipIdx member
          rw [if_neg (by omega)]
      | succ count =>
          have bound_eq : offset + (count + 1) = offset + 1 + count := by omega
          rw [List.take_succ_cons, List.zipIdx_cons, List.zipIdx_cons, List.filterMap_cons,
            List.filterMap_cons, ih, if_pos (by omega), bound_eq]

theorem filterMap_zipIdx_drop (read : α × Nat → Option β) (list : List α) (offset count : Nat) :
    ((list.drop count).zipIdx (offset + count)).filterMap read =
      (list.zipIdx offset).filterMap fun entry =>
        if offset + count ≤ entry.2 then read entry else none := by
  induction list generalizing offset count with
  | nil => simp
  | cons head rest ih =>
      cases count with
      | zero =>
          apply List.filterMap_congr
          intro entry member
          rw [if_pos (List.le_snd_of_mem_zipIdx member)]
      | succ count =>
          have bound_eq : offset + (count + 1) = offset + 1 + count := by omega
          rw [List.drop_succ_cons, List.zipIdx_cons, List.filterMap_cons, if_neg (by omega),
            bound_eq, ih]

/-- To read a slice of a numbered list is to read the numbers of the slice in the whole list. -/
theorem filterMap_zipIdx_slice (read : α × Nat → Option β) (list : List α) (first past : Nat) :
    (((list.drop first).take (past - first)).zipIdx first).filterMap read =
      list.zipIdx.filterMap fun entry =>
        if first ≤ entry.2 ∧ entry.2 < past then read entry else none := by
  have dropped := filterMap_zipIdx_drop (fun entry =>
    if entry.2 < first + (past - first) then read entry else none) list 0 first
  rw [Nat.zero_add] at dropped
  rw [filterMap_zipIdx_take, dropped]
  congr 1
  funext entry
  by_cases le : first ≤ entry.2
  · have bound_iff : entry.2 < first + (past - first) ↔ entry.2 < past := by omega
    simp only [le, bound_iff, if_true, true_and]
  · simp only [le, if_false, false_and]

end Slices

/-- The events that instructions of a group carry from one place up to another: the position of
each, and what follows its tag. -/
def eventsBetween (outer : Nat) (group : List Instruction) (first past : Nat) :
    List (Position × Bytes) :=
  group.zipIdx.filterMap fun (instruction, index) =>
    if first ≤ index ∧ index < past then
      (TradeEvent.bodyIn? instruction.payload).map (Position.invoked outer index, ·)
    else none

theorem mem_eventsBetween {outer first past : Nat} {group : List Instruction} {position : Position}
    {body : Bytes} :
    (position, body) ∈ eventsBetween outer group first past ↔
      ∃ index instruction, group[index]? = some instruction ∧ first ≤ index ∧ index < past ∧
        TradeEvent.bodyIn? instruction.payload = some body ∧
        position = .invoked outer index := by
  simp only [eventsBetween, List.mem_filterMap, Prod.exists, List.mk_mem_zipIdx_iff_getElem?,
    Option.ite_none_right_eq_some, Option.map_eq_some_iff, Prod.mk.injEq]
  constructor
  · rintro ⟨instruction, index, stands, ⟨first_le, lt_past⟩, _, carried, rfl, rfl⟩
    exact ⟨index, instruction, stands, first_le, lt_past, carried, rfl⟩
  · rintro ⟨index, instruction, stands, first_le, lt_past, carried, rfl⟩
    exact ⟨instruction, index, stands, ⟨first_le, lt_past⟩, body, carried, rfl, rfl⟩

/-- The events of a group up to a place are those up to an earlier one and those from there on. -/
theorem eventsBetween_append (outer : Nat) {group : List Instruction} {first middle past : Nat}
    (first_le : first ≤ middle) (middle_le : middle ≤ past)
    (middle_le_length : middle ≤ group.length) :
    eventsBetween outer group first past =
      eventsBetween outer group first middle ++ eventsBetween outer group middle past := by
  have slice (start stop : Nat) := filterMap_zipIdx_slice (fun entry : Instruction × Nat =>
    (TradeEvent.bodyIn? entry.1.payload).map (Position.invoked outer entry.2, ·)) group start stop
  have first_length : ((group.drop first).take (middle - first)).length = middle - first :=
    Detection.length_take_drop middle_le_length
  change group.zipIdx.filterMap _ = group.zipIdx.filterMap _ ++ group.zipIdx.filterMap _
  rw [← slice first past, ← slice first middle, ← slice middle past, ← List.filterMap_append,
    Detection.take_drop_append group first_le middle_le, List.zipIdx_append, first_length,
    Nat.add_sub_cancel' first_le]

/-- A matcher is shown the first event among the instructions that its own one invoked. -/
theorem Detection.eventBody?_contextOf {detection : Detection} {protocol : Protocol}
    {instruction : Instruction} {position : Position} {group : List Instruction}
    {first past start stop : Nat} :
    (detection.contextOf protocol instruction position group first past start stop).eventBody? =
      (eventsBetween position.outer group first past).head? := by
  have slice := filterMap_zipIdx_slice (fun entry : Instruction × Nat =>
    (TradeEvent.bodyIn? entry.1.payload).map (Position.invoked position.outer entry.2, ·)) group
    first past
  refine Eq.trans ?_ (congrArg List.head? slice)
  rw [List.head?_filterMap, List.zipIdx_eq_map_add, List.findSome?_map]
  rfl

end SwapLedger
