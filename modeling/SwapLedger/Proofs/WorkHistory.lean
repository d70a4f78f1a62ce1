import Mathlib.Data.List.Basic
import SwapLedger.TableQueue
import SwapLedger.Tables

/-!
# The history of the work queue

What has been done to the table of the work queue: by whom, when, and for which call. From the
history alone it can be told which rows are there, and which of them wait to be claimed; `Accords`
says in these terms what may be done next, and `Recorded` says that a table is as its history tells.
Every statement keeps the two together.
-/

namespace SwapLedger

/-- When a claim that is made at an instant is over. -/
def TableQueue.deadline (queue : TableQueue) (now : Nat) : Nat :=
  now + queue.settings.visibilityTimeoutSecs.toNat * 1000

/-- What a statement does to the work queue. -/
inductive WorkEvent where
  | published (id : Nat) (queue payload : String)
  | claimed (id deadline : Nat)
  /-- There was nothing to claim. -/
  | missed
  | givenBack (id : Int)
  | removed (id : Int)
  | counted (rows : Nat)

/-- The row that came up. -/
@[simp]
def WorkEvent.row? : WorkEvent → Option Nat
  | .published id _ _ | .claimed id _ => some id
  | _ => none

/-- Something that a client did to the work queue in the course of a call. -/
structure WorkDeed where
  instant : Nat
  client : Nat
  call : QueueCall
  event : WorkEvent

/-- Whether a row was claimed. -/
@[simp]
def WorkDeed.claims (id : Nat) (deed : WorkDeed) : Bool :=
  match deed.event with
  | .claimed other _ => other == id
  | _ => false

/-- All that has been done, the oldest first. -/
abbrev WorkHistory := List WorkDeed

namespace WorkHistory

/-- Whether something of one kind has been done, and nothing of another kind since. -/
def Since (started ended : WorkDeed → Prop) (history : WorkHistory) : Prop :=
  ∃ before deed after, history = before ++ deed :: after ∧ started deed ∧
    ∀ later ∈ after, ¬ ended later

variable (history : WorkHistory)

/-- Whether a row is there: it has been published, and not been removed since. -/
def Stored (id : Nat) (queue payload : String) : Prop :=
  Since (·.event = .published id queue payload) (·.event = .removed id) history

/-- Whether a row has been claimed until a deadline, and not been given back since. -/
def Claimed (id deadline : Nat) : Prop :=
  Since (·.event = .claimed id deadline) (·.event = .givenBack id) history

/-- Whether a row of a queue waits to be claimed: all claims of it are over or have been given
back. -/
def Waits (now : Nat) (queue : String) (id : Nat) : Prop :=
  (∃ payload, history.Stored id queue payload) ∧
    ∀ deadline, history.Claimed id deadline → deadline < now

/-- How often a row has been claimed. -/
def claims (id : Nat) : Nat := history.countP (WorkDeed.claims id)

/-- Whether something may be done after a history, in the course of the call that it is done for.
A claim takes the first row of the client's queue that waits, and misses only if none does. -/
def Accords (queues : Nat → TableQueue) (deed : WorkDeed) : Prop :=
  let name := (queues deed.client).settings.name
  let waits := history.Waits deed.instant name
  match deed.event with
  | .published id queue payload =>
    (∃ item, deed.call = .publish item ∧ payload = item.toPayload) ∧ queue = name ∧
      ∀ earlier ∈ history, ∀ other, earlier.event.row? = some other → other < id
  | .claimed id deadline =>
    deed.call = .consume ∧ waits id ∧ (∀ other, waits other → id ≤ other) ∧
      deadline = (queues deed.client).deadline deed.instant
  | .missed => deed.call = .consume ∧ ∀ id, ¬ waits id
  | .givenBack id => ∃ tag, deed.call = .reject tag true ∧ id = Statement.integer tag
  | .removed id =>
    ∃ tag, (deed.call = .acknowledge tag ∨ deed.call = .reject tag false) ∧
      id = Statement.integer tag
  | .counted rows =>
    deed.call = .depth ∧
      ∃ ids : List Nat, ids.Nodup ∧ (∀ id, id ∈ ids ↔ waits id) ∧ ids.length = rows

/-- Whether all that has been done was in order, each thing at its time. -/
def Regular (queues : Nat → TableQueue) : Prop :=
  ∀ before deed after, history = before ++ deed :: after →
    (∀ earlier ∈ before, earlier.instant ≤ deed.instant) ∧ Accords before queues deed

variable {history} {started ended : WorkDeed → Prop} {deed : WorkDeed} {id : Nat}

/-- What holds at every place of a history that goes on holds at the earlier places and at the new
one. -/
theorem forall_split_concat {holds : WorkHistory → WorkDeed → Prop} :
    (∀ before last after, history ++ [deed] = before ++ last :: after → holds before last) ↔
      (∀ before last after, history = before ++ last :: after → holds before last) ∧
        holds history deed := by
  constructor
  · intro all
    refine ⟨?_, all history deed [] rfl⟩
    intro before last after split
    apply all before last (after ++ [deed])
    rw [split, List.append_assoc, List.cons_append]
  · rintro ⟨earlier, newest⟩ before last after split
    rcases List.eq_nil_or_concat after with rfl | ⟨after, newer, rfl⟩
    · rcases List.append_inj' split rfl with ⟨rfl, same⟩
      cases same
      exact newest
    · rw [List.concat_eq_append, ← List.cons_append, ← List.append_assoc] at split
      exact earlier before last after (List.append_inj' split rfl).1

/-- A history stays regular if what is done next is in order, and not earlier than the rest. -/
theorem regular_concat {queues : Nat → TableQueue} :
    (history ++ [deed]).Regular queues ↔ history.Regular queues ∧
      (∀ earlier ∈ history, earlier.instant ≤ deed.instant) ∧ history.Accords queues deed := by
  exact forall_split_concat

theorem not_since_nil : ¬ Since started ended [] := by
  rintro ⟨before, deed, after, split, _⟩
  simp at split

/-- Something lasts just if it has lasted and is not ended by what comes next, or starts with it. -/
theorem since_concat :
    Since started ended (history ++ [deed]) ↔
      Since started ended history ∧ ¬ ended deed ∨ started deed := by
  constructor
  · rintro ⟨before, first, after, split, begun, lasting⟩
    rcases List.eq_nil_or_concat after with rfl | ⟨after, newest, rfl⟩
    · right
      rcases List.append_inj' split rfl with ⟨_, same⟩
      cases same
      exact begun
    · left
      rw [List.concat_eq_append, ← List.cons_append, ← List.append_assoc] at split
      rcases List.append_inj' split rfl with ⟨earlier, same⟩
      cases same
      refine ⟨⟨before, first, after, earlier, begun, fun later member => ?_⟩, ?_⟩
      · exact lasting later (by simp [member])
      · exact lasting deed (by simp)
  · rintro (⟨⟨before, first, after, rfl, begun, lasting⟩, unended⟩ | begun)
    · refine ⟨before, first, after ++ [deed], by simp, begun, fun later member => ?_⟩
      rcases List.mem_append.mp member with member | member
      · exact lasting later member
      · rwa [List.mem_singleton.mp member]
    · exact ⟨history, deed, [], rfl, begun, by simp⟩

/-- What lasts has been started. -/
theorem Since.exists_mem (since : Since started ended history) :
    ∃ deed ∈ history, started deed := by
  rcases since with ⟨before, deed, after, rfl, begun, _⟩
  exact ⟨deed, by simp, begun⟩

theorem claims_concat : claims (history ++ [deed]) id = history.claims id +
    if deed.claims id then 1 else 0 := by
  rw [claims, List.countP_append, List.countP_singleton]
  rfl

/-- A row has been claimed just if the history tells of a claim. -/
theorem claims_pos : 0 < history.claims id ↔
    ∃ deed ∈ history, ∃ deadline, deed.event = .claimed id deadline := by
  rw [claims, List.countP_pos_iff]
  refine exists_congr fun deed => and_congr_right fun _ => ?_
  cases event : deed.event <;> simp [WorkDeed.claims, event]

end WorkHistory

end SwapLedger
