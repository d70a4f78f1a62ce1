import SwapLedger.Proofs.QueueOperations

/-!
# The history of a queue

The queue in memory may just as well carry payloads that know under which number they were
published. This file follows such a queue through any operations of its clients. Every payload stays
in one place: it waits, is held, or has been acknowledged or thrown away. What waits are first the
payloads that came back, then those that were never handed out, in the order in which they were
published; from this it follows that a delivery is marked just if it is not the first of its
payload. Forgetting the numbers gives the queue that carries the payloads alone.
-/

namespace SwapLedger

/-- A queue whose payloads know under which number they were published, and what became of them. -/
structure QueueHistory (Payload : Type) where
  queue : MemoryQueue (Nat × Payload)
  /-- What has been published, in order. -/
  published : List (Nat × Payload)
  /-- What has been handed out, in order. -/
  deliveries : List (Delivery (Nat × Payload))
  acknowledged : List (Nat × Payload)
  /-- What has been thrown away. -/
  discarded : List (Nat × Payload)

namespace QueueHistory

variable {Payload : Type} (history : QueueHistory Payload)

/-- A queue with nothing in it. -/
def initial (prefetch : UInt16) : QueueHistory Payload := ⟨.empty prefetch, [], [], [], []⟩

/-- The history after an operation. What is published gets the next number. -/
def after (operation : QueueOperation Payload) : QueueHistory Payload :=
  let numbered := operation.map (history.published.length, ·)
  ⟨history.queue.perform numbered, history.published ++ numbered.published?.toList,
    history.deliveries ++ (history.queue.delivery? numbered).toList,
    history.acknowledged ++ (history.queue.acknowledged? numbered).toList,
    history.discarded ++ (history.queue.discarded? numbered).toList⟩

/-- The history of a queue under some operations. -/
def ofOperations (prefetch : UInt16) (operations : List (QueueOperation Payload)) :
    QueueHistory Payload :=
  operations.foldl after (initial prefetch)

def waiting : List (Nat × Payload) := history.queue.ready.map (·.payload)

def holding : List (Nat × Payload) := history.queue.held.map (·.2.payload)

/-- The numbers of the payloads that were handed out, in the order in which they were. -/
def handedOut : List Nat := history.deliveries.map (·.payload.1)

/-- How many payloads have been handed out for the first time. -/
def begun : Nat := (history.deliveries.filter (!·.redelivered)).length

/-- What an operation may do to a history. -/
inductive Change : QueueHistory Payload → Prop where
  | publish (payload : Payload) :
      Change { history with
        queue := history.queue.publish (history.published.length, payload),
        published := history.published ++ [(history.published.length, payload)] }
  | handOut (item : QueuedPayload (Nat × Payload)) (rest : List (QueuedPayload (Nat × Payload)))
      (isOpen : history.queue.closed = false) (ready : history.queue.ready = item :: rest) :
      Change { history with
        queue := { history.queue with
          ready := rest, held := history.queue.held ++ [(history.queue.nextTag, item)],
          nextTag := history.queue.nextTag + 1 },
        deliveries :=
          history.deliveries ++ [⟨history.queue.nextTag, item.payload, item.redelivered⟩] }
  | acknowledge (tag : Nat) (item : QueuedPayload (Nat × Payload))
      (found : history.queue.held.find? (·.1 == tag) = some (tag, item)) :
      Change { history with
        queue := { history.queue with held := history.queue.held.filter (·.1 != tag) },
        acknowledged := history.acknowledged ++ [item.payload] }
  | discard (tag : Nat) (item : QueuedPayload (Nat × Payload))
      (found : history.queue.held.find? (·.1 == tag) = some (tag, item)) :
      Change { history with
        queue := { history.queue with held := history.queue.held.filter (·.1 != tag) },
        discarded := history.discarded ++ [item.payload] }
  | giveBack (tag : Nat) (item : QueuedPayload (Nat × Payload))
      (found : history.queue.held.find? (·.1 == tag) = some (tag, item)) :
      Change { history with
        queue := { history.queue with
          ready := ⟨item.payload, true⟩ :: history.queue.ready,
          held := history.queue.held.filter (·.1 != tag) } }
  | close : Change { history with queue := history.queue.close }
  /-- The payloads stay where they are. -/
  | adjust (prefetch : UInt16) (closed : Bool)
      (closes : closed = true → history.queue.closed = true) :
      Change { history with queue := { history.queue with prefetch, closed } }

theorem change_refl : history.Change history :=
  .adjust history.queue.prefetch history.queue.closed id

/-- Every operation changes a queue and what is remembered of it in one of the few ways. -/
theorem change_after (operation : QueueOperation Payload) :
    history.Change (history.after operation) := by
  cases operation with
  | publish payload => simpa [after] using (Change.publish payload : history.Change _)
  | consume =>
      rcases taken : history.queue.consume? with _ | ⟨_ | delivery, next⟩
      · simpa [after, taken] using history.change_refl
      · simpa [after, taken, MemoryQueue.eq_of_consume?_eq_error taken, Except.toOption] using
          history.change_refl
      · rcases MemoryQueue.consume?_eq_ok.mp taken with ⟨isOpen, _, item, rest, ready, rfl, rfl⟩
        simpa [after, taken, Except.toOption] using Change.handOut item rest isOpen ready
  | acknowledge tag =>
      rcases settled : history.queue.settle tag with failure | ⟨item, next⟩
      · simpa [after, MemoryQueue.acknowledge_of_settle_error settled, MemoryQueue.heldUnder?,
          settled, Except.toOption] using history.change_refl
      · rcases MemoryQueue.settle_eq_ok.mp settled with ⟨found, rfl⟩
        simpa [after, MemoryQueue.acknowledge_of_settle_ok settled, MemoryQueue.heldUnder?, settled,
          Except.toOption] using Change.acknowledge tag item found
  | reject tag requeue =>
      rcases settled : history.queue.settle tag with failure | ⟨item, next⟩
      · cases requeue <;>
          simpa [after, MemoryQueue.reject_of_settle_error settled, MemoryQueue.heldUnder?, settled,
            Except.toOption] using history.change_refl
      · rcases MemoryQueue.settle_eq_ok.mp settled with ⟨found, rfl⟩
        cases requeue with
        | false =>
            simpa [after, MemoryQueue.reject_of_settle_ok settled, MemoryQueue.heldUnder?, settled,
              Except.toOption] using Change.discard tag item found
        | true =>
            simpa [after, MemoryQueue.reject_of_settle_ok settled, Except.toOption] using
              Change.giveBack tag item found
  | setPrefetch limit => simpa [after] using Change.adjust limit history.queue.closed id
  | close => simpa [after] using (Change.close : history.Change _)
  | reopen =>
      simpa [after, MemoryQueue.reopen] using
        (Change.adjust history.queue.prefetch false (by simp) : history.Change _)

/-! ## Where the payloads are -/

/-- Every payload that was published is in one place, and in one only. -/
structure Accounted : Prop where
  numbered : history.published.map Prod.fst = List.range history.published.length
  places : (history.waiting ++ history.holding ++ history.acknowledged ++ history.discarded).Perm
    history.published

variable {history} {next : QueueHistory Payload}

/-- Payloads that only move between places stay accounted for. -/
theorem Accounted.of_moved (accounted : history.Accounted)
    (published : next.published = history.published)
    (moved : (next.waiting ++ next.holding ++ next.acknowledged ++ next.discarded).Perm
      (history.waiting ++ history.holding ++ history.acknowledged ++ history.discarded)) :
    next.Accounted :=
  ⟨published ▸ accounted.numbered, published ▸ moved.trans accounted.places⟩

/-- A payload that is published is new, so it is in just one place. -/
theorem Accounted.publish (accounted : history.Accounted) (payload : Nat × Payload)
    (numbered : payload.1 = history.published.length) :
    { history with
      queue := history.queue.publish payload,
      published := history.published ++ [payload] : QueueHistory Payload }.Accounted := by
  constructor
  · rw [List.map_append, accounted.numbered, List.length_append, List.length_singleton,
      List.range_succ, List.map_cons, List.map_nil, numbered]
  · refine List.Perm.trans ?_ (accounted.places.append_right [payload])
    simp only [waiting, holding, MemoryQueue.publish, List.map_append, List.map_cons, List.map_nil,
      List.append_assoc]
    refine List.Perm.append_left _ (List.perm_append_comm.trans ?_)
    simp only [List.append_assoc, List.Perm.refl]

/-- What is settled leaves those that are held. -/
theorem perm_holding (tagged : history.queue.WellTagged) {tag : Nat}
    {item : QueuedPayload (Nat × Payload)}
    (found : history.queue.held.find? (·.1 == tag) = some (tag, item)) :
    history.holding.Perm
      (item.payload :: (history.queue.held.filter (·.1 != tag)).map (·.2.payload)) :=
  (tagged.perm_held found).map _

/-- No change puts a payload into two places or into none. -/
theorem Accounted.change (accounted : history.Accounted) (tagged : history.queue.WellTagged)
    (change : history.Change next) : next.Accounted := by
  classical
  cases change with
  | publish payload => exact accounted.publish _ rfl
  | handOut item rest isOpen ready =>
      refine accounted.of_moved rfl (List.perm_iff_count.mpr fun payload => ?_)
      simp only [waiting, holding, ready, List.map_append, List.map_cons, List.map_nil,
        List.count_append, List.count_cons, List.count_nil]
      omega
  | acknowledge tag item found | discard tag item found | giveBack tag item found =>
      refine accounted.of_moved rfl (List.perm_iff_count.mpr fun payload => ?_)
      have settled := (perm_holding tagged found).count_eq payload
      simp only [waiting, List.map_cons, List.count_append, List.count_cons, List.count_nil,
        settled]
      simp only [holding]
      omega
  | close =>
      refine accounted.of_moved rfl (List.perm_iff_count.mpr fun payload => ?_)
      have same : history.queue.held.map ((fun item : QueuedPayload (Nat × Payload) =>
          item.payload) ∘ fun entry => ⟨entry.2.payload, true⟩) = history.holding := rfl
      simp only [waiting, MemoryQueue.close, List.map_append, List.map_map, same, List.count_append]
      simp only [holding, List.map_nil, List.count_nil]
      omega
  | adjust prefetch closed closes => exact ⟨accounted.numbered, accounted.places⟩

/-! ## Under which tags payloads are held -/

variable (history) in
/-- Deliveries have the tags from one on, and what is held is held under the tag of a delivery. -/
structure Tagged : Prop where
  wellTagged : history.queue.WellTagged
  tags : history.deliveries.map (·.tag) = List.range' 1 history.deliveries.length
  nextTag : history.queue.nextTag = history.deliveries.length + 1
  delivered : ∀ entry ∈ history.queue.held,
    ⟨entry.1, entry.2.payload, entry.2.redelivered⟩ ∈ history.deliveries
  closed : history.queue.closed = true → history.queue.held = []

/-- No change gives a tag twice or forgets one that was given. -/
theorem Tagged.change (tagged : history.Tagged) (change : history.Change next) : next.Tagged := by
  rcases tagged with ⟨wellTagged, tags, nextTag, delivered, closed⟩
  cases change with
  | publish payload => exact ⟨wellTagged.publish _, tags, nextTag, delivered, closed⟩
  | handOut item rest isOpen ready =>
      refine ⟨wellTagged.handOut rest, ?_, ?_, ?_, ?_⟩
      · rw [List.map_append, tags, List.length_append, List.length_singleton, List.range'_1_concat,
          List.map_cons, List.map_nil, nextTag, Nat.add_comm]
      · simp [nextTag]
      · intro entry member
        rcases List.mem_append.mp member with held | last
        · exact List.mem_append_left _ (delivered entry held)
        · rw [List.mem_singleton] at last
          subst last
          simp
      · intro isClosed
        simp [isOpen] at isClosed
  | acknowledge tag item found | discard tag item found | giveBack tag item found =>
      refine ⟨wellTagged.release _ tag, tags, nextTag, ?_, ?_⟩
      · exact fun entry member => delivered entry (List.mem_of_mem_filter member)
      · intro isClosed
        simp [closed isClosed]
  | close => exact ⟨.close _, tags, nextTag, by simp [MemoryQueue.close], fun _ => rfl⟩
  | adjust prefetch isClosed closes =>
      exact ⟨⟨wellTagged.ascending, wellTagged.below⟩, tags, nextTag, delivered,
        fun shut => closed (closes shut)⟩

/-! ## In which order payloads are handed out -/

/-- What waits are first payloads that came back, and then those from a number on that have never
been handed out. -/
def WaitsFrom (begun published : Nat) (ready : List (QueuedPayload (Nat × Payload))) : Prop :=
  ∃ returned fresh, ready = returned ++ fresh ∧
    (∀ item ∈ returned, item.redelivered = true ∧ item.payload.1 < begun) ∧
    (∀ item ∈ fresh, item.redelivered = false) ∧
    fresh.map (·.payload.1) = List.range' begun (published - begun)

namespace WaitsFrom

variable {begun published : Nat} {ready : List (QueuedPayload (Nat × Payload))}

/-- What is published waits behind everything else, as one that nobody has been handed. -/
theorem publish (waits : WaitsFrom begun published ready) (begun_le : begun ≤ published)
    (payload : Payload) :
    WaitsFrom begun (published + 1) (ready ++ [⟨(published, payload), false⟩]) := by
  rcases waits with ⟨returned, fresh, rfl, back, unmarked, numbers⟩
  refine ⟨returned, fresh ++ [⟨(published, payload), false⟩], List.append_assoc _ _ _, back, ?_, ?_⟩
  · intro item member
    rcases List.mem_append.mp member with earlier | last
    · exact unmarked item earlier
    · rw [List.mem_singleton.mp last]
  · rw [List.map_append, numbers, Nat.succ_sub begun_le, List.range'_1_concat]
    simp [Nat.add_sub_of_le begun_le]

/-- What is put back waits before everything that nobody has been handed. -/
theorem giveBack (waits : WaitsFrom begun published ready)
    {items : List (QueuedPayload (Nat × Payload))}
    (back : ∀ item ∈ items, item.redelivered = true ∧ item.payload.1 < begun) :
    WaitsFrom begun published (items ++ ready) := by
  rcases waits with ⟨returned, fresh, rfl, before, unmarked, numbers⟩
  refine ⟨items ++ returned, fresh, (List.append_assoc _ _ _).symm, ?_, unmarked, numbers⟩
  intro item member
  exact (List.mem_append.mp member).elim (back item) (before item)

/-- What waits first has been handed out before, or it is the next of those that nobody has been
handed. -/
theorem head {item : QueuedPayload (Nat × Payload)}
    (waits : WaitsFrom begun published (item :: ready)) :
    (item.redelivered = true ∧ item.payload.1 < begun ∧ WaitsFrom begun published ready) ∨
      (item.redelivered = false ∧ item.payload.1 = begun ∧ begun < published ∧
        WaitsFrom (begun + 1) published ready) := by
  rcases waits with ⟨_ | ⟨first, returned⟩, fresh, split, back, unmarked, numbers⟩
  · right
    rw [List.nil_append] at split
    subst split
    have begun_lt : begun < published := by
      by_contra past
      simp [Nat.sub_eq_zero_of_le (Nat.le_of_not_lt past)] at numbers
    rw [← Nat.succ_sub_succ, Nat.succ_sub begun_lt, List.range'_succ, List.map_cons,
      List.cons.injEq] at numbers
    refine ⟨unmarked item List.mem_cons_self, numbers.1, begun_lt, [], ready, rfl, by simp, ?_,
      numbers.2⟩
    exact fun other member => unmarked other (List.mem_cons_of_mem _ member)
  · left
    rw [List.cons_append, List.cons.injEq] at split
    rcases split with ⟨rfl, rfl⟩
    refine ⟨(back item List.mem_cons_self).1, (back item List.mem_cons_self).2, returned, fresh,
      rfl, ?_, unmarked, numbers⟩
    exact fun other member => back other (List.mem_cons_of_mem _ member)

end WaitsFrom

/-- A delivery is marked just if its payload was handed out before. -/
def Marked (deliveries : List (Delivery (Nat × Payload))) : Prop :=
  ∀ place delivery, deliveries[place]? = some delivery →
    (delivery.redelivered = true ↔
      delivery.payload.1 ∈ (deliveries.take place).map (·.payload.1))

/-- A delivery that is marked just if its payload was delivered before keeps the deliveries well
marked. -/
theorem Marked.append {deliveries : List (Delivery (Nat × Payload))} (marked : Marked deliveries)
    {delivery : Delivery (Nat × Payload)}
    (again : delivery.redelivered = true ↔ delivery.payload.1 ∈ deliveries.map (·.payload.1)) :
    Marked (deliveries ++ [delivery]) := by
  intro place other found
  by_cases earlier : place < deliveries.length
  · rw [List.getElem?_append_left earlier] at found
    rw [List.take_append_of_le_length (Nat.le_of_lt earlier)]
    exact marked place other found
  · have last : place = deliveries.length := by
      have := (List.getElem?_eq_some_iff.mp found).1
      rw [List.length_append, List.length_singleton] at this
      omega
    subst last
    rw [List.getElem?_concat_length, Option.some.injEq] at found
    rw [← found, List.take_left]
    exact again

variable (history) in
/-- Payloads are handed out for the first time in the order in which they were published; those that
came back wait before all others. -/
structure Ordered : Prop where
  begun_le : history.begun ≤ history.published.length
  handedOut : ∀ number, number ∈ history.handedOut ↔ number < history.begun
  held : ∀ entry ∈ history.queue.held, entry.2.payload.1 < history.begun
  ready : WaitsFrom history.begun history.published.length history.queue.ready
  marked : Marked history.deliveries

theorem begun_deliver (queue : MemoryQueue (Nat × Payload)) (delivery : Delivery (Nat × Payload)) :
    ({ history with queue, deliveries := history.deliveries ++ [delivery] } :
      QueueHistory Payload).begun = history.begun + if delivery.redelivered then 0 else 1 := by
  cases marked : delivery.redelivered <;> simp [begun, marked]

theorem mem_handedOut_deliver (queue : MemoryQueue (Nat × Payload))
    (delivery : Delivery (Nat × Payload)) (number : Nat) :
    number ∈ ({ history with queue, deliveries := history.deliveries ++ [delivery] } :
      QueueHistory Payload).handedOut ↔
        number ∈ history.handedOut ∨ number = delivery.payload.1 := by
  simp [handedOut]

/-- Handing out the first payload leaves the others in their order. -/
theorem Ordered.handOut (ordered : history.Ordered) {item : QueuedPayload (Nat × Payload)}
    {rest : List (QueuedPayload (Nat × Payload))} (ready : history.queue.ready = item :: rest)
    (tag : Nat) (nextTag : Nat) :
    { history with
      queue := { history.queue with
        ready := rest, held := history.queue.held ++ [(tag, item)], nextTag },
      deliveries := history.deliveries ++ [⟨tag, item.payload, item.redelivered⟩] :
        QueueHistory Payload }.Ordered := by
  rcases ordered with ⟨begun_le, handedOut, held, waits, marked⟩
  have again_iff (before : item.redelivered = true ↔ item.payload.1 < history.begun) :
      Marked (history.deliveries ++ [⟨tag, item.payload, item.redelivered⟩]) :=
    marked.append (before.trans (handedOut item.payload.1).symm)
  rw [ready] at waits
  rcases waits.head with ⟨again, before, waits⟩ | ⟨first, number_eq, begun_lt, waits⟩
  · constructor
    · simpa [begun_deliver, again] using begun_le
    · intro number
      simp only [mem_handedOut_deliver, begun_deliver, again, if_true, Nat.add_zero,
        handedOut number]
      omega
    · intro entry member
      simp only [begun_deliver, again, if_true, Nat.add_zero]
      rcases List.mem_append.mp member with earlier | last
      · exact held entry earlier
      · rw [List.mem_singleton.mp last]
        exact before
    · simpa [begun_deliver, again] using waits
    · exact again_iff (by simp [again, before])
  · constructor
    · simpa [begun_deliver, first] using Nat.succ_le_of_lt begun_lt
    · intro number
      simp only [mem_handedOut_deliver, begun_deliver, first, Bool.false_eq_true, if_false,
        handedOut number]
      omega
    · intro entry member
      simp only [begun_deliver, first, Bool.false_eq_true, if_false]
      rcases List.mem_append.mp member with earlier | last
      · exact Nat.lt_succ_of_lt (held entry earlier)
      · rw [List.mem_singleton.mp last]
        exact number_eq ▸ Nat.lt_succ_self _
    · simpa [begun_deliver, first] using waits
    · exact again_iff (by simp [first, number_eq])

/-- No change disturbs the order in which payloads wait. -/
theorem Ordered.change (ordered : history.Ordered) (change : history.Change next) :
    next.Ordered := by
  rcases ordered with ⟨begun_le, handedOut, held, waits, marked⟩
  cases change with
  | publish payload =>
      refine ⟨?_, handedOut, held, ?_, marked⟩
      · rw [List.length_append]
        exact Nat.le_add_right_of_le begun_le
      · rw [List.length_append, List.length_singleton]
        exact waits.publish begun_le payload
  | handOut item rest isOpen ready =>
      exact Ordered.handOut ⟨begun_le, handedOut, held, waits, marked⟩ ready _ _
  | acknowledge tag item found | discard tag item found =>
      exact ⟨begun_le, handedOut, fun entry member => held entry (List.mem_of_mem_filter member),
        waits, marked⟩
  | giveBack tag item found =>
      refine ⟨begun_le, handedOut, fun entry member => held entry (List.mem_of_mem_filter member),
        ?_, marked⟩
      have back : ∀ other ∈ [(⟨item.payload, true⟩ : QueuedPayload (Nat × Payload))],
          other.redelivered = true ∧ other.payload.1 < history.begun := by
        intro other member
        rw [List.mem_singleton.mp member]
        exact ⟨rfl, held _ (List.mem_of_find?_eq_some found)⟩
      exact waits.giveBack back
  | close =>
      refine ⟨begun_le, handedOut, by simp [MemoryQueue.close], waits.giveBack ?_, marked⟩
      intro item member
      rcases List.mem_map.mp member with ⟨entry, held', rfl⟩
      exact ⟨rfl, held entry held'⟩
  | adjust prefetch closed closes => exact ⟨begun_le, handedOut, held, waits, marked⟩

/-! ## Without the numbers -/

/-- The history tells what happens to a queue that carries the payloads alone. -/
structure Tells (history : QueueHistory Payload) (prefetch : UInt16)
    (operations : List (QueueOperation Payload)) : Prop where
  queue : history.queue.map Prod.snd = operations.foldl MemoryQueue.perform (.empty prefetch)
  published : history.published.map Prod.snd = operations.filterMap QueueOperation.published?
  deliveries : history.deliveries.map (·.map Prod.snd) =
    (MemoryQueue.empty prefetch).observations MemoryQueue.delivery? operations
  acknowledged : history.acknowledged.map Prod.snd =
    (MemoryQueue.empty prefetch).observations MemoryQueue.acknowledged? operations
  discarded : history.discarded.map Prod.snd =
    (MemoryQueue.empty prefetch).observations MemoryQueue.discarded? operations

/-- What is remembered goes on telling what the operations did. -/
theorem Tells.after {history : QueueHistory Payload} {prefetch : UInt16}
    {operations : List (QueueOperation Payload)} (tells : history.Tells prefetch operations)
    (operation : QueueOperation Payload) :
    (history.after operation).Tells prefetch (operations ++ [operation]) := by
  have plain : (operation.map (history.published.length, ·)).map Prod.snd = operation := by
    cases operation <;> rfl
  have numbered := tells.queue
  constructor
  · rw [List.foldl_append, ← numbered, List.foldl_cons, List.foldl_nil, QueueHistory.after,
      ← MemoryQueue.perform_map, plain]
  · rw [List.filterMap_append, ← tells.published, QueueHistory.after, List.map_append]
    cases operation <;> rfl
  · rw [MemoryQueue.observations_concat, ← tells.deliveries, ← numbered, QueueHistory.after,
      List.map_append]
    conv_rhs => rw [← plain]
    rw [MemoryQueue.delivery?_map, Option.toList_map]
  · rw [MemoryQueue.observations_concat, ← tells.acknowledged, ← numbered, QueueHistory.after,
      List.map_append]
    conv_rhs => rw [← plain]
    rw [MemoryQueue.acknowledged?_map, Option.toList_map]
  · rw [MemoryQueue.observations_concat, ← tells.discarded, ← numbered, QueueHistory.after,
      List.map_append]
    conv_rhs => rw [← plain]
    rw [MemoryQueue.discarded?_map, Option.toList_map]

/-! ## All operations -/

/-- What no operation changes. -/
structure Sound (history : QueueHistory Payload) : Prop where
  accounted : history.Accounted
  tagged : history.Tagged
  ordered : history.Ordered

theorem sound_initial (prefetch : UInt16) : (initial prefetch : QueueHistory Payload).Sound := by
  have nothing : (initial prefetch : QueueHistory Payload).queue.held = [] := rfl
  refine ⟨⟨rfl, .refl _⟩, ⟨⟨.nil, ?_⟩, rfl, rfl, ?_, fun _ => rfl⟩, ?_⟩
  · simp [nothing]
  · simp [nothing]
  · refine ⟨Nat.le_refl _, ?_, by simp [nothing], ⟨[], [], rfl, by simp, by simp, rfl⟩, ?_⟩
    · simp [initial, handedOut, begun]
    · simp [initial, Marked]

/-- Whatever is done to a queue, what is remembered stays sound. -/
theorem Sound.after {history : QueueHistory Payload} (sound : history.Sound)
    (operation : QueueOperation Payload) : (history.after operation).Sound := by
  have change := history.change_after operation
  exact ⟨sound.accounted.change sound.tagged.wellTagged change, sound.tagged.change change,
    sound.ordered.change change⟩

theorem ofOperations_concat (prefetch : UInt16) (operations : List (QueueOperation Payload))
    (last : QueueOperation Payload) :
    ofOperations prefetch (operations ++ [last]) =
      (ofOperations prefetch operations).after last := by
  rw [ofOperations, List.foldl_append]
  rfl

/-- What is remembered after operations is what they did to the queue. -/
theorem tells_ofOperations (prefetch : UInt16) (operations : List (QueueOperation Payload)) :
    (ofOperations prefetch operations).Tells prefetch operations := by
  induction operations using List.reverseRecOn with
  | nil => exact ⟨rfl, rfl, rfl, rfl, rfl⟩
  | append_singleton operations last ih =>
      rw [ofOperations_concat]
      exact ih.after last

/-- After any operations all that is remembered is sound. -/
theorem sound_ofOperations (prefetch : UInt16) (operations : List (QueueOperation Payload)) :
    (ofOperations prefetch operations).Sound := by
  induction operations using List.reverseRecOn with
  | nil => exact sound_initial prefetch
  | append_singleton operations last ih =>
      rw [ofOperations_concat]
      exact ih.after last

/-- To settle a tag under which nothing is held changes nothing. -/
theorem after_of_unknown (history : QueueHistory Payload) {tag : Nat}
    (unknown : tag ∉ history.queue.held.map Prod.fst) {operation : QueueOperation Payload}
    (settles : operation = .acknowledge tag ∨ ∃ requeue, operation = .reject tag requeue) :
    history.after operation = history := by
  have refused := MemoryQueue.settle_eq_error unknown
  have missing : history.queue.heldUnder? tag = none := by
    rw [MemoryQueue.heldUnder?, refused]
    rfl
  rcases settles with rfl | ⟨requeue, rfl⟩
  · simp [after, missing, MemoryQueue.acknowledge_of_settle_error refused, Except.toOption]
  · cases requeue <;>
      simp [after, missing, MemoryQueue.reject_of_settle_error refused, Except.toOption]

/-- The queue neither loses nor doubles a payload, hands out first those that came back and then the
others as they were published, marks those that were handed out before, never uses a tag twice,
keeps within its prefetch, and refuses to settle what is not held. -/
theorem queue_keeps_account (prefetch : UInt16) (operations : List (QueueOperation Payload)) :
    let history := ofOperations prefetch operations
    history.Tells prefetch operations ∧ history.Accounted ∧ history.Tagged ∧ history.Ordered ∧
      (history.after .close).queue.ready =
        history.queue.held.map (fun entry => ⟨entry.2.payload, true⟩) ++ history.queue.ready ∧
      (history.after .close).queue.held = [] ∧
      (∀ delivery next, history.queue.consume? = some (.ok delivery, next) →
        history.queue.prefetch ≠ 0 → next.held.length ≤ history.queue.prefetch.toNat) ∧
      ∀ tag, tag ∉ history.queue.held.map Prod.fst →
        history.queue.acknowledge tag =
          .error (.queue ("unknown delivery tag " ++ toString tag)) ∧
        history.after (.acknowledge tag) = history ∧
        ∀ requeue, history.queue.reject tag requeue =
          .error (.queue ("unknown delivery tag " ++ toString tag)) ∧
          history.after (.reject tag requeue) = history := by
  intro history
  have sound : history.Sound := sound_ofOperations prefetch operations
  refine ⟨tells_ofOperations prefetch operations, sound.accounted, sound.tagged, sound.ordered, rfl,
    rfl, fun _ _ => MemoryQueue.length_held_le_prefetch, ?_⟩
  intro tag unknown
  have refused := MemoryQueue.settle_eq_error unknown
  refine ⟨MemoryQueue.acknowledge_of_settle_error refused,
    history.after_of_unknown unknown (.inl rfl), fun requeue => ?_⟩
  exact ⟨MemoryQueue.reject_of_settle_error refused requeue,
    history.after_of_unknown unknown (.inr ⟨requeue, rfl⟩)⟩

end QueueHistory

end SwapLedger
