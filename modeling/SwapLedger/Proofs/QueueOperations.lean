import Mathlib.Data.List.Perm.Basic
import Mathlib.Data.List.Range
import SwapLedger.MemoryQueue

/-!
# What clients do to a queue

The operations of the queue in memory, as one thing that can be done to it after another. Tags are
given in ascending order, so a tag finds one delivery at most. The queue never looks into a payload:
its operations commute with a change of what it carries.
-/

namespace SwapLedger

/-- What clients ask of a queue, and what becomes of its connection. -/
inductive QueueOperation (Payload : Type) where
  | publish (payload : Payload)
  | consume
  | acknowledge (tag : Nat)
  | reject (tag : Nat) (requeue : Bool)
  | setPrefetch (limit : UInt16)
  | close
  | reopen

namespace QueueOperation

variable {Payload Other : Type}

/-- The operation with another payload. -/
@[simp]
def map (change : Payload → Other) : QueueOperation Payload → QueueOperation Other
  | .publish payload => .publish (change payload)
  | .consume => .consume
  | .acknowledge tag => .acknowledge tag
  | .reject tag requeue => .reject tag requeue
  | .setPrefetch limit => .setPrefetch limit
  | .close => .close
  | .reopen => .reopen

/-- What is published by an operation. -/
@[simp]
def published? : QueueOperation Payload → Option Payload
  | .publish payload => some payload
  | _ => none

end QueueOperation

namespace MemoryQueue

variable {Payload Other : Type} {queue next : MemoryQueue Payload} {tag : Nat}
  {item : QueuedPayload Payload} {delivery : Delivery Payload}

/-! ## Operations -/

/-- The queue after an operation. One that is refused, or has to wait, changes nothing. -/
@[simp]
def perform (queue : MemoryQueue Payload) : QueueOperation Payload → MemoryQueue Payload
  | .publish payload => queue.publish payload
  | .consume => (queue.consume?.map (·.2)).getD queue
  | .acknowledge tag => (queue.acknowledge tag).toOption.getD queue
  | .reject tag requeue => (queue.reject tag requeue).toOption.getD queue
  | .setPrefetch limit => { queue with prefetch := limit }
  | .close => queue.close
  | .reopen => queue.reopen

/-- What an operation hands out. -/
@[simp]
def delivery? (queue : MemoryQueue Payload) : QueueOperation Payload → Option (Delivery Payload)
  | .consume => queue.consume?.bind fun (outcome, _) => outcome.toOption
  | _ => none

/-- The payload that is held under a tag. -/
def heldUnder? (queue : MemoryQueue Payload) (tag : Nat) : Option Payload :=
  (queue.settle tag).toOption.map fun (item, _) => item.payload

/-- The payload that an operation acknowledges. -/
@[simp]
def acknowledged? (queue : MemoryQueue Payload) : QueueOperation Payload → Option Payload
  | .acknowledge tag => queue.heldUnder? tag
  | _ => none

/-- The payload that an operation throws away. -/
@[simp]
def discarded? (queue : MemoryQueue Payload) : QueueOperation Payload → Option Payload
  | .reject tag false => queue.heldUnder? tag
  | _ => none

/-- A payload is handed out if the queue is open and has credit and something waits: the first that
waits, under the next tag. -/
theorem consume?_eq_ok :
    queue.consume? = some (.ok delivery, next) ↔
      queue.closed = false ∧ queue.hasCredit = true ∧ ∃ item rest, queue.ready = item :: rest ∧
        delivery = ⟨queue.nextTag, item.payload, item.redelivered⟩ ∧
        next = { queue with
          ready := rest, held := queue.held ++ [(queue.nextTag, item)],
          nextTag := queue.nextTag + 1 } := by
  rw [consume?]
  cases closed : queue.closed with
  | true => simp
  | false =>
      cases credit : queue.hasCredit with
      | false => simp
      | true =>
          cases waiting : queue.ready with
          | nil => simp
          | cons item rest => simp [eq_comm]

/-- A consumer to whom nothing is handed out leaves the queue as it is. -/
theorem eq_of_consume?_eq_error {failure : Failure}
    (refused : queue.consume? = some (.error failure, next)) : next = queue := by
  rw [consume?] at refused
  split_ifs at refused
  · simp only [Option.some.injEq, Prod.mk.injEq] at refused
    exact refused.2.symm
  · cases waiting : queue.ready <;> simp [waiting] at refused

/-- A tag is settled if something is held under it, which then is held no more. -/
theorem settle_eq_ok :
    queue.settle tag = .ok (item, next) ↔
      queue.held.find? (·.1 == tag) = some (tag, item) ∧
        next = { queue with held := queue.held.filter (·.1 != tag) } := by
  rw [settle]
  cases found : queue.held.find? (·.1 == tag) with
  | none => simp
  | some entry =>
      have same := List.find?_some found
      simp only [beq_iff_eq] at same
      rcases entry with ⟨other, held⟩
      subst same
      simp [eq_comm]

/-- A tag that is not held cannot be settled. -/
theorem settle_eq_error (unknown : tag ∉ queue.held.map Prod.fst) :
    queue.settle tag = .error (.queue ("unknown delivery tag " ++ toString tag)) := by
  have missing : queue.held.find? (·.1 == tag) = none := by
    rw [List.find?_eq_none]
    intro entry member same
    exact unknown (List.mem_map.mpr ⟨entry, member, by simpa using same⟩)
  rw [settle, missing]

/-- What can be settled can be acknowledged. -/
theorem acknowledge_of_settle_ok (settled : queue.settle tag = .ok (item, next)) :
    queue.acknowledge tag = .ok next := by
  rw [acknowledge, settled]
  rfl

/-- What can be settled can be refused, and is put back at the head or thrown away. -/
theorem reject_of_settle_ok (settled : queue.settle tag = .ok (item, next)) (requeue : Bool) :
    queue.reject tag requeue =
      .ok (if requeue then { next with ready := ⟨item.payload, true⟩ :: next.ready }
        else next) := by
  rw [reject, settled]
  rfl

theorem acknowledge_of_settle_error {failure : Failure}
    (refused : queue.settle tag = .error failure) :
    queue.acknowledge tag = .error failure := by
  rw [acknowledge, refused]
  rfl

theorem reject_of_settle_error {failure : Failure} (refused : queue.settle tag = .error failure)
    (requeue : Bool) : queue.reject tag requeue = .error failure := by
  rw [reject, refused]
  rfl

/-- What has been acknowledged has been settled. -/
theorem acknowledge_eq_ok :
    queue.acknowledge tag = .ok next ↔ ∃ item, queue.settle tag = .ok (item, next) := by
  rw [acknowledge]
  cases queue.settle tag with
  | error failure => simp [Except.map]
  | ok outcome => simp [Except.map, Prod.ext_iff, eq_comm]

/-- What has been refused has been settled, and put back at the head or thrown away. -/
theorem reject_eq_ok {requeue : Bool} :
    queue.reject tag requeue = .ok next ↔ ∃ item settled, queue.settle tag = .ok (item, settled) ∧
      next = if requeue then { settled with ready := ⟨item.payload, true⟩ :: settled.ready }
        else settled := by
  cases settled : queue.settle tag with
  | error failure => simp [reject_of_settle_error settled]
  | ok outcome => simp [reject_of_settle_ok settled, Prod.ext_iff, eq_comm]

/-- As long as there is a limit, handing out never makes more held than it says. -/
theorem length_held_le_prefetch (taken : queue.consume? = some (.ok delivery, next))
    (limited : queue.prefetch ≠ 0) : next.held.length ≤ queue.prefetch.toNat := by
  rcases consume?_eq_ok.mp taken with ⟨_, credit, item, rest, _, _, rfl⟩
  rw [hasCredit, Bool.or_eq_true, beq_iff_eq, or_iff_right limited, decide_eq_true_eq] at credit
  rw [List.length_append, List.length_singleton]
  exact credit

/-! ## Tags -/

/-- Tags are given in ascending order, and the next one is greater than all that are held. -/
structure WellTagged (queue : MemoryQueue Payload) : Prop where
  ascending : (queue.held.map Prod.fst).Pairwise (· < ·)
  below : ∀ entry ∈ queue.held, entry.1 < queue.nextTag

namespace WellTagged

/-- Settling a tag takes away just what is held under it. -/
theorem perm_held (tagged : queue.WellTagged)
    (found : queue.held.find? (·.1 == tag) = some (tag, item)) :
    queue.held.Perm ((tag, item) :: queue.held.filter (·.1 != tag)) := by
  have ascending := tagged.ascending
  revert ascending found
  induction queue.held with
  | nil => simp
  | cons entry rest ih =>
      intro found ascending
      rw [List.map_cons, List.pairwise_cons] at ascending
      by_cases same : entry.1 = tag
      · rw [List.find?_cons_of_pos (by simpa using same), Option.some.injEq] at found
        have apart : rest.filter (·.1 != tag) = rest := by
          rw [List.filter_eq_self]
          intro other member
          have := ascending.1 other.1 (List.mem_map_of_mem member)
          rw [bne_iff_ne]
          omega
        rw [List.filter_cons_of_neg (by simpa using same), apart, found]
      · rw [List.find?_cons_of_neg (by simpa using same)] at found
        rw [List.filter_cons_of_pos (by simpa using same)]
        exact ((ih found ascending.2).cons entry).trans (List.Perm.swap _ _ _)

/-- Under a tag that is held stands what is held. -/
theorem find?_held (tagged : queue.WellTagged) (member : (tag, item) ∈ queue.held) :
    queue.held.find? (·.1 == tag) = some (tag, item) := by
  have ascending := tagged.ascending
  revert ascending member
  induction queue.held with
  | nil => simp
  | cons entry rest ih =>
      intro member ascending
      rw [List.map_cons, List.pairwise_cons] at ascending
      rcases List.mem_cons.mp member with rfl | later
      · simp
      · have := ascending.1 tag (List.mem_map_of_mem later)
        rw [List.find?_cons_of_neg (by simp; omega)]
        exact ih later ascending.2

theorem publish (tagged : queue.WellTagged) (payload : Payload) :
    (queue.publish payload).WellTagged :=
  ⟨tagged.ascending, tagged.below⟩

/-- Tags stay below the next one and apart when a payload is handed out. -/
theorem handOut (tagged : queue.WellTagged) (ready : List (QueuedPayload Payload)) :
    { queue with
      ready, held := queue.held ++ [(queue.nextTag, item)],
      nextTag := queue.nextTag + 1 : MemoryQueue Payload }.WellTagged := by
  constructor
  · rw [List.map_append, List.pairwise_append]
    refine ⟨tagged.ascending, by simp, ?_⟩
    intro earlier member later last
    rcases List.mem_map.mp member with ⟨entry, held, rfl⟩
    simp only [List.map_cons, List.map_nil, List.mem_singleton] at last
    exact last ▸ tagged.below entry held
  · intro entry member
    rcases List.mem_append.mp member with held | last
    · exact Nat.lt_succ_of_lt (tagged.below entry held)
    · simp only [List.mem_singleton] at last
      simp [last]

/-- Tags stay below the next one and apart when one of them is settled. -/
theorem release (tagged : queue.WellTagged) (ready : List (QueuedPayload Payload)) (tag : Nat) :
    { queue with ready, held := queue.held.filter (·.1 != tag) :
      MemoryQueue Payload }.WellTagged := by
  constructor
  · exact (tagged.ascending.sublist (List.filter_sublist.map _))
  · intro entry member
    exact tagged.below entry (List.mem_of_mem_filter member)

theorem close (queue : MemoryQueue Payload) : queue.close.WellTagged :=
  ⟨List.Pairwise.nil, by simp [MemoryQueue.close]⟩

end WellTagged

end MemoryQueue

/-! ## Other payloads -/

namespace QueuedPayload

variable {Payload Other : Type}

/-- The same with another payload. -/
def map (change : Payload → Other) (item : QueuedPayload Payload) : QueuedPayload Other :=
  ⟨change item.payload, item.redelivered⟩

end QueuedPayload

namespace Delivery

variable {Payload Other : Type}

/-- The delivery of another payload. -/
def map (change : Payload → Other) (delivery : Delivery Payload) : Delivery Other :=
  ⟨delivery.tag, change delivery.payload, delivery.redelivered⟩

end Delivery

namespace MemoryQueue

variable {Payload Other Observed : Type}

/-- What is observed of operations, one after another. -/
def observations (look? : MemoryQueue Payload → QueueOperation Payload → Option Observed)
    (queue : MemoryQueue Payload) : List (QueueOperation Payload) → List Observed
  | [] => []
  | operation :: later =>
    (look? queue operation).toList ++ observations look? (queue.perform operation) later

/-- What is observed of operations is what is observed of the earlier ones and of the last. -/
theorem observations_concat
    (look? : MemoryQueue Payload → QueueOperation Payload → Option Observed)
    (queue : MemoryQueue Payload) (operations : List (QueueOperation Payload))
    (last : QueueOperation Payload) :
    queue.observations look? (operations ++ [last]) =
      queue.observations look? operations ++
        (look? (operations.foldl perform queue) last).toList := by
  induction operations generalizing queue with
  | nil => simp [observations]
  | cons operation later ih =>
      rw [List.cons_append, observations, observations, ih, List.foldl_cons, List.append_assoc]

variable (change : Payload → Other) (queue : MemoryQueue Payload)

/-- The queue with other payloads. -/
def map : MemoryQueue Other :=
  ⟨queue.ready.map (·.map change), queue.held.map fun (tag, item) => (tag, item.map change),
    queue.nextTag, queue.prefetch, queue.closed⟩

/-- A queue settles its tags in the same way whatever its payloads are. -/
theorem settle_map (tag : Nat) :
    (queue.map change).settle tag =
      (queue.settle tag).map fun (item, next) => (item.map change, next.map change) := by
  have found : (queue.map change).held.find? (·.1 == tag) =
      (queue.held.find? (·.1 == tag)).map fun (tag, item) => (tag, item.map change) := by
    rw [map, List.find?_map]
    rfl
  rw [settle, settle, found]
  cases queue.held.find? (·.1 == tag) with
  | none => rfl
  | some entry =>
      simp only [Option.map_some, Except.map, map, List.filter_map]
      rfl

/-- A queue hands out in the same way whatever its payloads are. -/
theorem consume?_map :
    (queue.map change).consume? =
      queue.consume?.map fun (outcome, next) => (outcome.map (·.map change), next.map change) := by
  have credit : (queue.map change).hasCredit = queue.hasCredit := by
    simp only [hasCredit, map, List.length_map]
  rw [consume?, consume?, credit]
  by_cases closed : queue.closed = true
  · simp [map, closed, Except.map]
  · by_cases waits : queue.hasCredit = false
    · simp [map, closed, waits]
    · cases ready : queue.ready with
      | nil => simp [map, closed, waits, ready]
      | cons item rest =>
          simp [map, closed, waits, ready, Except.map, Delivery.map, QueuedPayload.map]

theorem heldUnder?_map (tag : Nat) :
    (queue.map change).heldUnder? tag = (queue.heldUnder? tag).map change := by
  rw [heldUnder?, heldUnder?, settle_map]
  cases queue.settle tag <;> rfl

theorem delivery?_map (operation : QueueOperation Payload) :
    (queue.map change).delivery? (operation.map change) =
      (queue.delivery? operation).map (·.map change) := by
  cases operation with
  | consume =>
      simp only [QueueOperation.map, delivery?, consume?_map]
      rcases queue.consume? with _ | ⟨_ | _, _⟩ <;> rfl
  | _ => rfl

theorem acknowledged?_map (operation : QueueOperation Payload) :
    (queue.map change).acknowledged? (operation.map change) =
      (queue.acknowledged? operation).map change := by
  cases operation with
  | acknowledge tag => exact queue.heldUnder?_map change tag
  | _ => rfl

theorem discarded?_map (operation : QueueOperation Payload) :
    (queue.map change).discarded? (operation.map change) =
      (queue.discarded? operation).map change := by
  cases operation with
  | reject tag requeue =>
      cases requeue with
      | false => exact queue.heldUnder?_map change tag
      | true => rfl
  | _ => rfl

/-- No operation looks into the payloads. -/
theorem perform_map (operation : QueueOperation Payload) :
    (queue.map change).perform (operation.map change) = (queue.perform operation).map change := by
  cases operation with
  | publish payload => simp [map, publish, QueuedPayload.map]
  | consume =>
      simp only [QueueOperation.map, perform, consume?_map]
      rcases queue.consume? with _ | ⟨_, _⟩ <;> rfl
  | acknowledge tag =>
      simp only [QueueOperation.map, perform, acknowledge, settle_map]
      cases queue.settle tag <;> rfl
  | reject tag requeue =>
      simp only [QueueOperation.map, perform, reject, settle_map]
      cases queue.settle tag <;> cases requeue <;> rfl
  | setPrefetch limit => rfl
  | close => simp [map, close, QueuedPayload.map, Function.comp_def]
  | reopen => rfl

end MemoryQueue

end SwapLedger
