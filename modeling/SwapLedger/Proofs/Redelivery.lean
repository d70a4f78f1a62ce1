import SwapLedger.Proofs.Soundness
import SwapLedger.Proofs.Workshop
import SwapLedger.WorkItem.Swaps

/-!
# What redelivery keeps

A swap is owed as soon as some worker has seen it stored, and for good once its item has been
acknowledged. It is safe while a row tells of it, or while an item with it is in the queue that no
worker has stored yet. Workers remove rows only before they store them again, and only of items that
the queue still holds for them, or that it has taken back; in the first case the item is in the
queue, and the second is the only one in which a swap that is owed may get lost.
-/

namespace SwapLedger

/-- The delivery that a worker has still to settle. -/
def Custody.delivery? : Custody → Option Delivery
  | .holding delivery _ | .stored delivery => some delivery
  | .free | .announcing _ => none

/-- Whether a swap is found in an item. -/
def Carries (registry : Registry) (payload : String) (swap : SwapRecord) : Prop :=
  ∃ item, WorkItem.ofPayload? payload = some item ∧ swap ∈ item.swaps registry

/-- A swap has the signature of its transaction. -/
theorem Transaction.id_of_mem_swaps {transaction : Transaction} {registry : Registry}
    {blockTime : Timestamp} {blockNumber : Slot} {swap : SwapRecord}
    (found : swap ∈ transaction.swaps registry blockTime blockNumber) :
    swap.id = transaction.signature := by
  rw [Transaction.swaps, Detection.swaps] at found
  split_ifs at found
  · rcases List.mem_filterMap.mp found with ⟨candidate, _, recorded⟩
    rcases (Candidate.record?_eq_some recorded).2.2.2.2 with ⟨_, _, _, rfl⟩
    rfl
  · cases found

theorem WorkItem.id_mem_signatures {item : WorkItem} {registry : Registry} {swap : SwapRecord}
    (found : swap ∈ item.swaps registry) : swap.id ∈ item.signatures := by
  rcases List.mem_flatMap.mp found with ⟨transaction, member, found⟩
  rw [Transaction.id_of_mem_swaps found]
  exact List.mem_map_of_mem member

namespace Tables

theorem conflicts_refl (swap : SwapRecord) : Conflicts swap swap :=
  ⟨rfl, rfl, rfl, rfl, rfl, rfl, rfl⟩

theorem subset_insertSwap (rows : List SwapRecord) (swap : SwapRecord) :
    rows ⊆ insertSwap rows swap := by
  rw [insertSwap]
  split_ifs
  · exact List.Subset.refl _
  · exact List.subset_append_left _ _

/-- After an insertion there is a row with the key of the swap, be it the swap itself or one that
was there. -/
theorem exists_conflicts_insertSwap (rows : List SwapRecord) (swap : SwapRecord) :
    ∃ row ∈ insertSwap rows swap, Conflicts row swap := by
  rw [insertSwap]
  split_ifs with present
  · rcases List.any_eq_true.mp present with ⟨row, member, conflicts⟩
    exact ⟨row, member, of_decide_eq_true conflicts⟩
  · exact ⟨swap, List.mem_append_right _ List.mem_cons_self, conflicts_refl swap⟩

theorem subset_foldl_insertSwap (rows swaps : List SwapRecord) :
    rows ⊆ swaps.foldl insertSwap rows := by
  induction swaps generalizing rows with
  | nil => exact List.Subset.refl _
  | cons swap rest ih => exact List.Subset.trans (subset_insertSwap rows swap) (ih _)

theorem foldl_insertSwap_subset (rows swaps : List SwapRecord) :
    swaps.foldl insertSwap rows ⊆ rows ++ swaps := by
  induction swaps generalizing rows with
  | nil =>
      rw [List.append_nil]
      exact List.Subset.refl _
  | cons swap rest ih =>
      intro row kept
      rcases List.mem_append.mp (ih _ kept) with kept | new
      · rw [insertSwap] at kept
        split_ifs at kept
        · exact List.mem_append_left _ kept
        · rcases List.mem_append.mp kept with kept | added
          · exact List.mem_append_left _ kept
          · rw [List.mem_singleton.mp added]
            exact List.mem_append_right _ List.mem_cons_self
      · exact List.mem_append_right _ (List.mem_cons_of_mem _ new)

/-- So there is one for each of several swaps. -/
theorem exists_conflicts_foldl (rows : List SwapRecord) {swaps : List SwapRecord}
    {swap : SwapRecord} (member : swap ∈ swaps) :
    ∃ row ∈ swaps.foldl insertSwap rows, Conflicts row swap := by
  induction swaps generalizing rows with
  | nil => cases member
  | cons first rest ih =>
      rcases List.mem_cons.mp member with rfl | member
      · rcases exists_conflicts_insertSwap rows swap with ⟨row, stored, conflicts⟩
        exact ⟨row, subset_foldl_insertSwap _ rest stored, conflicts⟩
      · exact ih _ member

end Tables

namespace Workshop

/-- Workers have taken different deliveries, of which the queue holds what they were given. -/
structure Tidy (shop : Workshop) : Prop where
  wellTagged : shop.queue.WellTagged
  tag_lt : ∀ number delivery, shop.taken number = some delivery →
    delivery.tag < shop.queue.nextTag
  payload_eq : ∀ number delivery item, shop.taken number = some delivery →
    (delivery.tag, item) ∈ shop.queue.held → item.payload = delivery.payload
  apart : ∀ first second delivery other, shop.taken first = some delivery →
    shop.taken second = some other → delivery.tag = other.tag → first = second

/-- Whether a payload has come up. -/
def Knows (shop : Workshop) (payload : String) : Prop :=
  payload ∈ shop.queued ∨ payload ∈ shop.acknowledged ∨
    ∃ number delivery, shop.taken number = some delivery ∧ delivery.payload = payload

/-- Whether a swap should be stored, or on the way. -/
def Owes (shop : Workshop) (registry : Registry) (custody : Nat → Custody) (swap : SwapRecord) :
    Prop :=
  (∃ payload ∈ shop.acknowledged, Carries registry payload swap) ∨
    ∃ number delivery, custody number = .stored delivery ∧ Carries registry delivery.payload swap

/-- Whether an item with a swap is in the queue that no worker has stored yet. -/
def Expects (shop : Workshop) (registry : Registry) (custody : Nat → Custody) (swap : SwapRecord) :
    Prop :=
  (∃ item ∈ shop.queue.ready, Carries registry item.payload swap) ∨
    ∃ entry ∈ shop.queue.held, Carries registry entry.2.payload swap ∧
      ∀ number delivery, custody number = .stored delivery → delivery.tag ≠ entry.1

/-- Whether a swap is stored or expected, or rows of its transaction have been removed by a worker
that should not have done so. -/
def Secures (shop : Workshop) (registry : Registry) (custody : Nat → Custody) (swap : SwapRecord) :
    Prop :=
  (∃ row ∈ shop.rows, Tables.Conflicts row swap) ∨ shop.Expects registry custody swap ∨
    swap.id ∈ shop.strayed

/-- What may become of the workshop, and of what its workers have in hand. -/
inductive Change (catalogue : Catalogue) (registry : Registry) (shop : Workshop)
    (custody : Nat → Custody) : Workshop → (Nat → Custody) → Prop where
  | publish {payload : String} (described : catalogue.Describes payload) :
      Change catalogue registry shop custody (shop.withQueue (shop.queue.publish payload)) custody
  | close : Change catalogue registry shop custody (shop.withQueue shop.queue.close) custody
  | adjust (prefetch : UInt16) (closed : Bool) :
      Change catalogue registry shop custody
        (shop.withQueue { shop.queue with prefetch, closed }) custody
  | take {number : Nat} {item : QueuedPayload} {rest : List QueuedPayload}
      (free : custody number = .free) (ready : shop.queue.ready = item :: rest) :
      Change catalogue registry shop custody
        (shop.take number ⟨shop.queue.nextTag, item.payload, item.redelivered⟩
          { shop.queue with
            ready := rest, held := shop.queue.held ++ [(shop.queue.nextTag, item)],
            nextTag := shop.queue.nextTag + 1 })
        (Function.update custody number
          (.holding ⟨shop.queue.nextTag, item.payload, item.redelivered⟩ 0))
  | clear {number attempts : Nat} {delivery : Delivery} {signature : String}
      (holding : custody number = .holding delivery attempts)
      (mentioned : Worker.mentions delivery signature = true) :
      Change catalogue registry shop custody (shop.clear number signature) custody
  | attempt {number attempts : Nat} {delivery : Delivery} {rows : List SwapRecord}
      (holding : custody number = .holding delivery attempts) (grown : shop.rows ⊆ rows) :
      Change catalogue registry shop custody { shop with rows }
        (Function.update custody number (.holding delivery (attempts + 1)))
  | store {number attempts : Nat} {delivery : Delivery} {swaps : List SwapRecord}
      (holding : custody number = .holding delivery attempts)
      (complete : ∀ swap, Carries registry delivery.payload swap → swap ∈ swaps) :
      Change catalogue registry shop custody (shop.store swaps)
        (Function.update custody number (.stored delivery))
  | settle {number : Nat} {delivery : Delivery} {item : QueuedPayload} {next : Custody}
      {acknowledged : List String} (inHand : (custody number).delivery? = some delivery)
      (found : shop.queue.held.find? (·.1 == delivery.tag) = some (delivery.tag, item))
      (done : custody number = .stored delivery ∨ ∀ swap, ¬ Carries registry delivery.payload swap)
      (freed : next.delivery? = none)
      (known : ∀ payload ∈ acknowledged, payload ∈ shop.acknowledged ∨ payload = item.payload) :
      Change catalogue registry shop custody
        { shop with
          queue := { shop.queue with held := shop.queue.held.filter (·.1 != delivery.tag) },
          acknowledged }
        (Function.update custody number next)
  | giveBack {number attempts : Nat} {delivery : Delivery} {item : QueuedPayload}
      (holding : custody number = .holding delivery attempts)
      (found : shop.queue.held.find? (·.1 == delivery.tag) = some (delivery.tag, item)) :
      Change catalogue registry shop custody
        (shop.withQueue { shop.queue with
          ready := ⟨item.payload, true⟩ :: shop.queue.ready,
          held := shop.queue.held.filter (·.1 != delivery.tag) })
        (Function.update custody number .free)
  | drop {number : Nat} {next : Custody} (freed : next.delivery? = none) :
      Change catalogue registry shop custody shop (Function.update custody number next)

variable {catalogue : Catalogue} {registry : Registry} {shop next : Workshop}
  {custody custody' : Nat → Custody}

/-! ## Deliveries -/

/-- After a worker has taken a delivery, what anyone holds is that delivery or what was held before.
-/
theorem taken_take_eq_some {number second : Nat} {delivery other : Delivery} {queue : MemoryQueue}
    (taken : (shop.take number delivery queue).taken second = some other) :
    (second = number ∧ other = delivery) ∨ shop.taken second = some other := by
  by_cases same : second = number
  · subst same
    simp only [take, Function.update_self, Option.some.injEq] at taken
    exact .inl ⟨rfl, taken.symm⟩
  · simp only [take, Function.update_of_ne same] at taken
    exact .inr taken

/-- Taking a delivery keeps the shop tidy. No client holds anything under the new tag, as tags are
given out in ascending order. -/
theorem Tidy.take (tidy : shop.Tidy) {number : Nat} {item : QueuedPayload}
    {rest : List QueuedPayload} :
    (shop.take number ⟨shop.queue.nextTag, item.payload, item.redelivered⟩
      { shop.queue with
        ready := rest, held := shop.queue.held ++ [(shop.queue.nextTag, item)],
        nextTag := shop.queue.nextTag + 1 }).Tidy := by
  have held_tag : ∀ other, (shop.queue.nextTag, other) ∉ shop.queue.held :=
    fun other member => Nat.lt_irrefl _ (tidy.wellTagged.below _ member)
  have taken_tag : ∀ second delivery, shop.taken second = some delivery →
      delivery.tag ≠ shop.queue.nextTag :=
    fun second delivery taken => Nat.ne_of_lt (tidy.tag_lt second delivery taken)
  constructor
  · exact tidy.wellTagged.handOut rest
  · intro second delivery taken
    rcases taken_take_eq_some taken with ⟨_, rfl⟩ | taken
    · exact Nat.lt_succ_self _
    · exact Nat.lt_succ_of_lt (tidy.tag_lt second delivery taken)
  · intro second delivery other taken held
    rcases taken_take_eq_some taken with ⟨_, rfl⟩ | taken <;>
      rcases List.mem_append.mp held with held | last
    · exact absurd held (held_tag other)
    · rw [List.mem_singleton, Prod.mk.injEq] at last
      rw [last.2]
    · exact tidy.payload_eq second delivery other taken held
    · rw [List.mem_singleton, Prod.mk.injEq] at last
      exact absurd last.1 (taken_tag second delivery taken)
  · intro first second delivery other taken taken' same
    rcases taken_take_eq_some taken with ⟨rfl, rfl⟩ | before <;>
      rcases taken_take_eq_some taken' with ⟨rfl, rfl⟩ | before'
    · rfl
    · exact absurd same.symm (taken_tag second other before')
    · exact absurd same (taken_tag first delivery before)
    · exact tidy.apart first second delivery other before before' same

/-- Nothing that a worker, a publisher or the database does makes the shop untidy. -/
theorem Tidy.change (tidy : shop.Tidy)
    (change : Change catalogue registry shop custody next custody') : next.Tidy := by
  rcases tidy with ⟨wellTagged, tag_lt, payload_eq, apart⟩
  cases change with
  | publish described => exact ⟨wellTagged.publish _, tag_lt, payload_eq, apart⟩
  | close => exact ⟨.close _, tag_lt, fun _ _ _ _ => nofun, apart⟩
  | adjust => exact ⟨⟨wellTagged.ascending, wellTagged.below⟩, tag_lt, payload_eq, apart⟩
  | take free ready => exact Tidy.take ⟨wellTagged, tag_lt, payload_eq, apart⟩
  | settle inHand found done freed known =>
      exact ⟨wellTagged.release _ _, tag_lt, fun number delivery item taken held =>
        payload_eq number delivery item taken (List.mem_of_mem_filter held), apart⟩
  | giveBack holding found =>
      exact ⟨wellTagged.release _ _, tag_lt, fun number delivery item taken held =>
        payload_eq number delivery item taken (List.mem_of_mem_filter held), apart⟩
  | clear | attempt | store | drop => exact ⟨wellTagged, tag_lt, payload_eq, apart⟩

/-! ## Payloads -/

/-- What is queued waits or is held. -/
theorem mem_queued {payload : String} :
    payload ∈ shop.queued ↔ (∃ item ∈ shop.queue.ready, item.payload = payload) ∨
      ∃ entry ∈ shop.queue.held, entry.2.payload = payload := by
  rw [queued, List.mem_append, List.mem_map, List.mem_map]

/-- Payloads that come up describe items of the catalogue, when those known before do. -/
theorem describes_of_change
    (described : ∀ payload, shop.Knows payload → catalogue.Describes payload)
    (change : Change catalogue registry shop custody next custody') {payload : String}
    (knows : next.Knows payload) : catalogue.Describes payload := by
  cases change with
  | publish new =>
      rcases knows with queued | known
      · rcases mem_queued.mp queued with ⟨item, member, rfl⟩ | held
        · rcases List.mem_append.mp member with waits | last
          · exact described _ (.inl (mem_queued.mpr (.inl ⟨item, waits, rfl⟩)))
          · rw [List.mem_singleton.mp last]
            exact new
        · exact described _ (.inl (mem_queued.mpr (.inr held)))
      · exact described _ (.inr known)
  | close =>
      rcases knows with queued | known
      · rcases mem_queued.mp queued with ⟨item, member, rfl⟩ | ⟨entry, nothing, _⟩
        · rcases List.mem_append.mp member with back | waits
          · rcases List.mem_map.mp back with ⟨entry, held, rfl⟩
            exact described _ (.inl (mem_queued.mpr (.inr ⟨entry, held, rfl⟩)))
          · exact described _ (.inl (mem_queued.mpr (.inl ⟨item, waits, rfl⟩)))
        · cases nothing
      · exact described _ (.inr known)
  | @take number item rest free ready =>
      have first : shop.Knows item.payload :=
        .inl (mem_queued.mpr (.inl ⟨item, by rw [ready]; exact List.mem_cons_self, rfl⟩))
      rcases knows with queued | acknowledged | ⟨second, delivery, taken, rfl⟩
      · rcases mem_queued.mp queued with ⟨other, waits, rfl⟩ | ⟨entry, held, rfl⟩
        · refine described _ (.inl (mem_queued.mpr (.inl ⟨other, ?_, rfl⟩)))
          rw [ready]
          exact List.mem_cons_of_mem _ waits
        · rcases List.mem_append.mp held with held | last
          · exact described _ (.inl (mem_queued.mpr (.inr ⟨entry, held, rfl⟩)))
          · rw [List.mem_singleton.mp last]
            exact described _ first
      · exact described _ (.inr (.inl acknowledged))
      · rcases taken_take_eq_some taken with ⟨_, rfl⟩ | taken
        · exact described _ first
        · exact described _ (.inr (.inr ⟨second, delivery, taken, rfl⟩))
  | @settle number delivery item _ acknowledged inHand found done freed known =>
      rcases knows with queued | member | taken
      · rcases mem_queued.mp queued with waits | ⟨entry, held, rfl⟩
        · exact described _ (.inl (mem_queued.mpr (.inl waits)))
        · exact described _
            (.inl (mem_queued.mpr (.inr ⟨entry, List.mem_of_mem_filter held, rfl⟩)))
      · rcases known payload member with before | rfl
        · exact described _ (.inr (.inl before))
        · exact described _
            (.inl (mem_queued.mpr (.inr ⟨_, List.mem_of_find?_eq_some found, rfl⟩)))
      · exact described _ (.inr (.inr taken))
  | @giveBack number _ delivery item holding found =>
      rcases knows with queued | known
      · rcases mem_queued.mp queued with ⟨other, waits, rfl⟩ | ⟨entry, held, rfl⟩
        · rcases List.mem_cons.mp waits with rfl | waits
          · exact described _
              (.inl (mem_queued.mpr (.inr ⟨_, List.mem_of_find?_eq_some found, rfl⟩)))
          · exact described _ (.inl (mem_queued.mpr (.inl ⟨other, waits, rfl⟩)))
        · exact described _
            (.inl (mem_queued.mpr (.inr ⟨entry, List.mem_of_mem_filter held, rfl⟩)))
      · exact described _ (.inr known)
  | adjust | clear | attempt | store | drop => exact described _ knows

/-! ## Rows -/

/-- What an item says of a transaction, another one that tells of the transaction says too. -/
theorem carries_of_mentions {payload : String} {delivery : Delivery} {swap : SwapRecord}
    (described : catalogue.Describes payload) (described' : catalogue.Describes delivery.payload)
    (carries : Carries registry payload swap)
    (mentioned : Worker.mentions delivery swap.id = true) :
    Carries registry delivery.payload swap := by
  rcases carries with ⟨item, readable, found⟩
  rcases List.mem_flatMap.mp found with ⟨transaction, member, found⟩
  rw [Worker.mentions, Option.any_eq_true] at mentioned
  rcases mentioned with ⟨other, readable', mentioned⟩
  rw [List.contains_iff_mem, WorkItem.signatures, List.mem_map] at mentioned
  rcases mentioned with ⟨transaction', member', signature⟩
  rw [Transaction.id_of_mem_swaps found] at signature
  have same := described item readable transaction member
  rw [← signature, described' other readable' transaction' member', Prod.mk.injEq,
    Prod.mk.injEq] at same
  rcases same with ⟨rfl, time, number⟩
  refine ⟨other, readable', List.mem_flatMap.mpr ⟨_, member', ?_⟩⟩
  rw [time, number]
  exact found

/-- A worker who has stored something and is not the one whose stage has changed had stored it
before. -/
theorem eq_stored_of_update {number other : Nat} {stage : Custody} {delivery : Delivery}
    (unstored : ∀ delivery, stage ≠ .stored delivery)
    (stored : Function.update custody number stage other = .stored delivery) :
    other ≠ number ∧ custody other = .stored delivery := by
  by_cases same : other = number
  · subst same
    rw [Function.update_self] at stored
    exact absurd stored (unstored delivery)
  · rw [Function.update_of_ne same] at stored
    exact ⟨same, stored⟩

/-- What the shop owes after a step that stores nothing it owed before it. -/
theorem Owes.of_unstored {number : Nat} {stage : Custody} {swap : SwapRecord}
    (unstored : ∀ delivery, stage ≠ .stored delivery)
    (acknowledged : next.acknowledged = shop.acknowledged)
    (owes : next.Owes registry (Function.update custody number stage) swap) :
    shop.Owes registry custody swap := by
  rcases owes with ⟨payload, member, carries⟩ | ⟨other, delivery, stored, carries⟩
  · exact .inl ⟨payload, acknowledged ▸ member, carries⟩
  · exact .inr ⟨other, delivery, (eq_stored_of_update unstored stored).2, carries⟩

/-- Rows may be added, and items may be expected elsewhere. -/
theorem Secures.mono {swap : SwapRecord} (secures : shop.Secures registry custody swap)
    (rows : shop.rows ⊆ next.rows)
    (expects : shop.Expects registry custody swap → next.Expects registry custody' swap)
    (strayed : next.strayed = shop.strayed) : next.Secures registry custody' swap := by
  rcases secures with ⟨row, member, conflicts⟩ | expected | stray
  · exact .inl ⟨row, rows member, conflicts⟩
  · exact .inr (.inl (expects expected))
  · exact .inr (.inr (strayed ▸ stray))

variable (catalogue registry) in
/-- What holds of workers that share a queue and a store. -/
structure Sound (shop : Workshop) (custody : Nat → Custody) : Prop where
  tidy : shop.Tidy
  described : ∀ payload, shop.Knows payload → catalogue.Describes payload
  inHand : ∀ number delivery, (custody number).delivery? = some delivery →
    shop.taken number = some delivery
  kept : ∀ swap, shop.Owes registry custody swap → shop.Secures registry custody swap

variable {number attempts : Nat} {delivery : Delivery} {swap : SwapRecord}

/-- What the queue holds under the tag of a delivery is what was delivered. -/
theorem Sound.payload_eq (sound : Sound catalogue registry shop custody)
    (inHand : (custody number).delivery? = some delivery) {item : QueuedPayload}
    (held : (delivery.tag, item) ∈ shop.queue.held) : item.payload = delivery.payload :=
  sound.tidy.payload_eq number delivery item (sound.inHand number delivery inHand) held

/-- An item that a worker holds and has not stored is expected. -/
theorem Sound.expects_of_holding (sound : Sound catalogue registry shop custody)
    (holding : custody number = .holding delivery attempts)
    (held : delivery.tag ∈ shop.queue.held.map Prod.fst)
    (carries : Carries registry delivery.payload swap) : shop.Expects registry custody swap := by
  have inHand : (custody number).delivery? = some delivery := by rw [holding]; rfl
  rcases List.mem_map.mp held with ⟨⟨tag, item⟩, member, rfl⟩
  refine .inr ⟨_, member, sound.payload_eq inHand member ▸ carries, ?_⟩
  intro other stored' stored same
  have taken := sound.inHand other stored' (by rw [stored]; rfl)
  have := sound.tidy.apart other number stored' delivery taken (sound.inHand _ _ inHand) same
  rw [this, holding] at stored
  cases stored

/-- Removing the rows of a delivery in hand keeps every swap secured: one that loses its row is
carried by that delivery, which is still queued. -/
theorem Sound.secures_clear (sound : Sound catalogue registry shop custody)
    (holding : custody number = .holding delivery attempts) {signature : String}
    (mentioned : Worker.mentions delivery signature = true)
    (owes : shop.Owes registry custody swap) :
    (shop.clear number signature).Secures registry custody swap := by
  have strayed : shop.strayed ⊆ (shop.clear number signature).strayed := by
    rw [clear]
    split_ifs
    · exact List.Subset.refl _
    · exact List.subset_append_left _ _
  rcases sound.kept swap owes with ⟨row, member, conflicts⟩ | expected | stray
  · by_cases other : row.id = signature
    · have id : swap.id = signature := conflicts.1.symm.trans other
      by_cases holds : shop.Holds number
      · rcases holds with ⟨taken, found, held⟩
        have inHand := sound.inHand number delivery (by rw [holding]; rfl)
        rw [inHand, Option.some.injEq] at found
        subst found
        have carries : Carries registry delivery.payload swap := by
          have described := sound.described _ (.inr (.inr ⟨number, delivery, inHand, rfl⟩))
          rcases owes with ⟨payload, member, carries⟩ | ⟨second, stored', stored, carries⟩
          · exact carries_of_mentions (sound.described _ (.inr (.inl member))) described carries
              (id ▸ mentioned)
          · have taken := sound.inHand second stored' (by rw [stored]; rfl)
            exact carries_of_mentions
              (sound.described _ (.inr (.inr ⟨second, stored', taken, rfl⟩))) described carries
              (id ▸ mentioned)
        exact .inr (.inl (sound.expects_of_holding holding held carries))
      · refine .inr (.inr ?_)
        rw [clear, if_neg holds, id]
        exact List.mem_append_right _ List.mem_cons_self
    · exact .inl ⟨row, List.mem_filter.mpr ⟨member, by simpa using other⟩, conflicts⟩
  · exact .inr (.inl expected)
  · exact .inr (.inr (strayed stray))

/-- Storing the swaps of a delivery in hand keeps every swap secured. -/
theorem Sound.secures_store (sound : Sound catalogue registry shop custody)
    (holding : custody number = .holding delivery attempts) {swaps : List SwapRecord}
    (complete : ∀ swap, Carries registry delivery.payload swap → swap ∈ swaps)
    (owes : (shop.store swaps).Owes registry
      (Function.update custody number (.stored delivery)) swap) :
    (shop.store swaps).Secures registry (Function.update custody number (.stored delivery))
      swap := by
  have inHand : (custody number).delivery? = some delivery := by rw [holding]; rfl
  by_cases carries : Carries registry delivery.payload swap
  · exact .inl (Tables.exists_conflicts_foldl shop.rows (complete swap carries))
  · have before : shop.Owes registry custody swap := by
      rcases owes with acknowledged | ⟨other, stored', stored, carries'⟩
      · exact .inl acknowledged
      · by_cases same : other = number
        · subst same
          rw [Function.update_self, Custody.stored.injEq] at stored
          exact absurd (stored ▸ carries') carries
        · rw [Function.update_of_ne same] at stored
          exact .inr ⟨other, stored', stored, carries'⟩
    refine (sound.kept swap before).mono (Tables.subset_foldl_insertSwap _ _) ?_ rfl
    rintro (waits | ⟨entry, held, carries', unstored⟩)
    · exact .inl waits
    · refine .inr ⟨entry, held, carries', ?_⟩
      intro other stored' stored same_tag
      by_cases same : other = number
      · subst same
        rw [Function.update_self, Custody.stored.injEq] at stored
        subst stored
        have held' : (delivery.tag, entry.2) ∈ shop.queue.held := by
          rw [same_tag]
          exact held
        exact carries (sound.payload_eq inHand held' ▸ carries')
      · rw [Function.update_of_ne same] at stored
        exact unstored other stored' stored same_tag

/-- Settling a delivery keeps every swap secured when the delivery has been stored or carries no
swap. -/
theorem Sound.secures_settle (sound : Sound catalogue registry shop custody) {stage : Custody}
    {item : QueuedPayload} {acknowledged : List String}
    (inHand : (custody number).delivery? = some delivery)
    (found : shop.queue.held.find? (·.1 == delivery.tag) = some (delivery.tag, item))
    (done : custody number = .stored delivery ∨ ∀ swap, ¬ Carries registry delivery.payload swap)
    (freed : stage.delivery? = none)
    (known : ∀ payload ∈ acknowledged, payload ∈ shop.acknowledged ∨ payload = item.payload)
    (owes : Owes
      { shop with
        queue := { shop.queue with held := shop.queue.held.filter (·.1 != delivery.tag) },
        acknowledged }
      registry (Function.update custody number stage) swap) :
    Secures
      { shop with
        queue := { shop.queue with held := shop.queue.held.filter (·.1 != delivery.tag) },
        acknowledged }
      registry (Function.update custody number stage) swap := by
  have unstored : ∀ delivery, stage ≠ .stored delivery := by
    rintro delivery rfl
    cases freed
  have payload := sound.payload_eq inHand (List.mem_of_find?_eq_some found)
  have before : shop.Owes registry custody swap := by
    rcases owes with ⟨acked, member, carries⟩ | ⟨other, stored', stored, carries⟩
    · rcases known acked member with earlier | rfl
      · exact .inl ⟨acked, earlier, carries⟩
      · rw [payload] at carries
        rcases done with stored | nothing
        · exact .inr ⟨number, delivery, stored, carries⟩
        · exact absurd carries (nothing swap)
    · exact .inr ⟨other, stored', (eq_stored_of_update unstored stored).2, carries⟩
  refine (sound.kept swap before).mono (List.Subset.refl _) ?_ rfl
  rintro (waits | ⟨entry, held, carries, apart⟩)
  · exact .inl waits
  · refine .inr ⟨entry, List.mem_filter.mpr ⟨held, ?_⟩, carries, ?_⟩
    · rw [bne_iff_ne]
      intro same
      rcases done with stored | nothing
      · exact apart number delivery stored same.symm
      · have held' : (delivery.tag, entry.2) ∈ shop.queue.held := by
          rw [← same]
          exact held
        exact nothing swap (sound.payload_eq inHand held' ▸ carries)
    · intro other stored' stored
      exact apart other stored' (eq_stored_of_update unstored stored).2

/-- What the workers are still to settle they have taken. -/
theorem Sound.inHand_change (sound : Sound catalogue registry shop custody)
    (change : Change catalogue registry shop custody next custody') (number : Nat)
    (delivery : Delivery) (inHand : (custody' number).delivery? = some delivery) :
    next.taken number = some delivery := by
  have still (stage : Custody) (worker : Nat)
      (same : stage.delivery? = none ∨ stage.delivery? = (custody worker).delivery?)
      (inHand : (Function.update custody worker stage number).delivery? = some delivery) :
      shop.taken number = some delivery := by
    by_cases its : number = worker
    · subst its
      rw [Function.update_self] at inHand
      rcases same with freed | same
      · rw [freed] at inHand
        cases inHand
      · exact sound.inHand number delivery (same ▸ inHand)
    · rw [Function.update_of_ne its] at inHand
      exact sound.inHand number delivery inHand
  cases change with
  | @take worker item rest free ready =>
      by_cases its : number = worker
      · subst its
        rw [Function.update_self] at inHand
        exact (Function.update_self _ _ _).trans inHand
      · rw [Function.update_of_ne its] at inHand
        exact (Function.update_of_ne its _ _).trans (sound.inHand number delivery inHand)
  | attempt holding grown => exact still _ _ (.inr (by rw [holding]; rfl)) inHand
  | store holding complete => exact still _ _ (.inr (by rw [holding]; rfl)) inHand
  | settle _ _ _ freed _ => exact still _ _ (.inl freed) inHand
  | giveBack _ _ => exact still _ _ (.inl rfl) inHand
  | drop freed => exact still _ _ (.inl freed) inHand
  | publish | close | adjust | clear => exact sound.inHand number delivery inHand

/-- Every step of the shop keeps it sound. -/
theorem Sound.change (sound : Sound catalogue registry shop custody)
    (change : Change catalogue registry shop custody next custody') :
    Sound catalogue registry next custody' := by
  refine ⟨sound.tidy.change change, fun payload => describes_of_change sound.described change,
    sound.inHand_change change, ?_⟩
  intro swap owes
  cases change with
  | publish described =>
      refine (sound.kept swap owes).mono (List.Subset.refl _) (Or.imp_left ?_) rfl
      rintro ⟨item, waits, carries⟩
      exact ⟨item, List.mem_append_left _ waits, carries⟩
  | close =>
      refine (sound.kept swap owes).mono (List.Subset.refl _) ?_ rfl
      rintro (⟨item, waits, carries⟩ | ⟨entry, held, carries, _⟩)
      · exact .inl ⟨item, List.mem_append_right _ waits, carries⟩
      · exact .inl ⟨⟨entry.2.payload, true⟩,
          List.mem_append_left _ (List.mem_map.mpr ⟨entry, held, rfl⟩), carries⟩
  | adjust => exact (sound.kept swap owes).mono (List.Subset.refl _) id rfl
  | @take number item rest free ready =>
      have unstored : ∀ delivery,
          Custody.holding ⟨shop.queue.nextTag, item.payload, item.redelivered⟩ 0 ≠
            .stored delivery := nofun
      refine (sound.kept swap (owes.of_unstored unstored rfl)).mono (List.Subset.refl _) ?_ rfl
      rintro (⟨other, waits, carries⟩ | ⟨entry, held, carries, apart⟩)
      · rw [ready] at waits
        rcases List.mem_cons.mp waits with rfl | waits
        · refine .inr ⟨_, List.mem_append_right _ List.mem_cons_self, carries, ?_⟩
          intro second delivery stored
          have stored := (eq_stored_of_update unstored stored).2
          have taken := sound.inHand second delivery (by rw [stored]; rfl)
          exact Nat.ne_of_lt (sound.tidy.tag_lt second delivery taken)
        · exact .inl ⟨other, waits, carries⟩
      · refine .inr ⟨entry, List.mem_append_left _ held, carries, ?_⟩
        intro second delivery stored
        exact apart second delivery (eq_stored_of_update unstored stored).2
  | @attempt _ attempts delivery _ holding grown =>
      have unstored : ∀ other, Custody.holding delivery (attempts + 1) ≠ .stored other := nofun
      refine (sound.kept swap (owes.of_unstored unstored rfl)).mono grown (Or.imp_right ?_) rfl
      rintro ⟨entry, held, carries, apart⟩
      refine ⟨entry, held, carries, fun second delivery stored => ?_⟩
      exact apart second delivery (eq_stored_of_update unstored stored).2
  | clear holding mentioned => exact sound.secures_clear holding mentioned owes
  | store holding complete => exact sound.secures_store holding complete owes
  | settle inHand found done freed known =>
      exact sound.secures_settle inHand found done freed known owes
  | @giveBack number _ delivery item holding found =>
      have unstored : ∀ other, Custody.free ≠ .stored other := nofun
      refine (sound.kept swap (owes.of_unstored unstored rfl)).mono (List.Subset.refl _) ?_ rfl
      rintro (⟨other, waits, carries⟩ | ⟨entry, held, carries, apart⟩)
      · exact .inl ⟨other, List.mem_cons_of_mem _ waits, carries⟩
      · by_cases same : entry.1 = delivery.tag
        · have first := sound.tidy.wellTagged.find?_held held
          rw [same, found, Option.some.injEq, Prod.mk.injEq] at first
          exact .inl ⟨_, List.mem_cons_self, first.2 ▸ carries⟩
        · refine .inr ⟨entry, List.mem_filter.mpr ⟨held, by simpa using same⟩, carries, ?_⟩
          intro second stored' stored
          exact apart second stored' (eq_stored_of_update unstored stored).2
  | @drop number stage freed =>
      have unstored : ∀ delivery, stage ≠ .stored delivery := by
        rintro delivery rfl
        cases freed
      refine (sound.kept swap (owes.of_unstored unstored rfl)).mono (List.Subset.refl _)
        (Or.imp_right ?_) rfl
      rintro ⟨entry, held, carries, apart⟩
      refine ⟨entry, held, carries, fun second delivery stored => ?_⟩
      exact apart second delivery (eq_stored_of_update unstored stored).2

end Workshop

end SwapLedger
