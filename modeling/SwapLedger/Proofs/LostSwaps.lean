import SwapLedger.Proofs.Reconstruction
import SwapLedger.Proofs.Takeover

/-!
# Swaps that are lost, and all others

Whatever workers do and however they are answered, a swap of an item that has been acknowledged is
stored, or its transaction is in the queue once more, unless its rows have been removed by a worker
whose delivery the queue had taken back before. That this happens is shown by two trades that three
workers take one after another.
-/

namespace SwapLedger

namespace Workshop

variable {catalogue : Catalogue} {crew : Crew} {shop next : Workshop} {custody : Nat → Custody}
  {number : Nat} {delivery : Delivery} {swap : SwapRecord}

theorem change_refl : Change catalogue crew.registry shop custody shop custody :=
  .adjust shop.queue.prefetch shop.queue.closed

theorem mem_of_carries {swaps : List SwapRecord}
    (found : (crew.worker number).swaps? delivery = some swaps)
    (carries : Carries crew.registry delivery.payload swap) : swap ∈ swaps := by
  rcases carries with ⟨item, readable, member⟩
  rw [Worker.swaps?, readable, crew.registry_eq, Option.map_some, Option.some.injEq] at found
  exact found ▸ member

/-- An item of which nothing has to be stored has no swaps. -/
theorem not_carries {settlement : Settlement}
    (chosen : settlement = (crew.worker number).settlementUnstored delivery)
    (final : settlement ≠ .requeued) : ¬ Carries crew.registry delivery.payload swap := by
  intro carries
  rw [Worker.settlementUnstored] at chosen
  rcases found : (crew.worker number).swaps? delivery with _ | _ | ⟨first, rest⟩
  · rcases carries with ⟨item, readable, _⟩
    rw [Worker.swaps?, readable] at found
    cases found
  · cases mem_of_carries found carries
  · rw [found] at chosen
    exact final chosen

theorem change_of_acknowledged {tag : Nat} {queue : MemoryQueue} {stage : Custody}
    (settled : shop.queue.acknowledge tag = .ok queue)
    (advances : (crew.worker number).Advances (custody number) (.settled tag .acknowledged)
      stage) :
    Change catalogue crew.registry shop custody (shop.acknowledge tag queue)
      (Function.update custody number stage) := by
  rcases MemoryQueue.acknowledge_eq_ok.mp settled with ⟨item, released⟩
  have held : shop.queue.heldUnder? tag = some item.payload := by
    rw [MemoryQueue.heldUnder?, released]
    rfl
  rcases MemoryQueue.settle_eq_ok.mp released with ⟨found, rfl⟩
  have known : ∀ payload ∈ shop.acknowledged ++ [item.payload],
      payload ∈ shop.acknowledged ∨ payload = item.payload := by simp
  rw [acknowledge, held]
  generalize stage_eq : custody number = before at advances
  cases advances with
  | settled chosen =>
      exact .settle (by rw [stage_eq]; rfl) found
        (.inr fun swap => not_carries chosen (by decide)) rfl known
  | acknowledged => exact .settle (by rw [stage_eq]; rfl) found (.inl stage_eq) rfl known

theorem change_of_rejected {tag : Nat} {requeue : Bool} {queue : MemoryQueue} {stage : Custody}
    (settled : shop.queue.reject tag requeue = .ok queue)
    (advances : (crew.worker number).Advances (custody number)
      (.settled tag (if requeue then .requeued else .rejected)) stage) :
    Change catalogue crew.registry shop custody (shop.withQueue queue)
      (Function.update custody number stage) := by
  rcases MemoryQueue.reject_eq_ok.mp settled with ⟨item, released, freed, rfl⟩
  rcases MemoryQueue.settle_eq_ok.mp freed with ⟨found, rfl⟩
  generalize stage_eq : custody number = before at advances
  cases requeue with
  | true => cases advances with | settled chosen => exact .giveBack stage_eq found
  | false =>
      cases advances with
      | settled chosen =>
          exact .settle (by rw [stage_eq]; rfl) found
            (.inr fun swap => not_carries chosen (by decide)) rfl fun payload known => .inl known

theorem change_of_stored {swaps : List SwapRecord} {outcome : Option (Except Failure Unit)}
    {stage : Custody}
    (advances : (crew.worker number).Advances (custody number) (.inserted swaps outcome)
      stage) :
    Change catalogue crew.registry shop custody (shop.store swaps)
      (Function.update custody number stage) := by
  generalize stage_eq : custody number = before at advances
  cases advances with
  | inserted swaps_ne found enough =>
      rcases outcome with _ | failure | ⟨⟩
      · exact .attempt stage_eq (Tables.subset_foldl_insertSwap _ _)
      · exact .attempt stage_eq (Tables.subset_foldl_insertSwap _ _)
      · exact .store stage_eq fun swap => mem_of_carries found

/-- An attempt to store swaps that is not seen to succeed may have had no effect. -/
theorem change_of_notStored {swaps : List SwapRecord} {outcome : Option (Except Failure Unit)}
    {stage : Custody} (unseen : outcome ≠ some (.ok ()))
    (advances : (crew.worker number).Advances (custody number) (.inserted swaps outcome)
      stage) :
    Change catalogue crew.registry shop custody shop (Function.update custody number stage) := by
  generalize stage_eq : custody number = before at advances
  cases advances with
  | inserted swaps_ne found enough =>
      rcases outcome with _ | failure | ⟨⟩
      · exact .attempt stage_eq (List.Subset.refl _)
      · exact .attempt stage_eq (List.Subset.refl _)
      · exact absurd rfl unseen

/-- Whatever a worker has in hand, it has nothing to settle after it has done so. -/
theorem change_of_settled {tag : Nat} {settlement : Settlement} {stage : Custody}
    (advances : (crew.worker number).Advances (custody number) (.settled tag settlement)
      stage) :
    Change catalogue crew.registry shop custody shop (Function.update custody number stage) := by
  generalize custody number = before at advances
  cases advances <;> exact .drop rfl

/-- What a worker calls changes the workshop as it may be changed. -/
theorem change_of_serves {answered : AnsweredCall Services} {stage : Custody}
    (serves : shop.Serves number answered next)
    (passes : (crew.worker number).custody.Passes (custody number) (some answered) stage) :
    Change catalogue crew.registry shop custody next (Function.update custody number stage) := by
  have silent (same : stage = custody number) :
      Change catalogue crew.registry shop custody shop (Function.update custody number stage) := by
    rw [same, Function.update_eq_self]
    exact change_refl
  cases serves with
  | delivered consumed =>
      rcases MemoryQueue.consume?_eq_ok.mp consumed with ⟨_, _, item, rest, ready, rfl, rfl⟩
      change (crew.worker number).Advances (custody number) (.took _) stage at passes
      generalize stage_eq : custody number = before at passes
      cases passes
      exact .take stage_eq ready
  | nothing => exact silent passes
  | closed consumed => exact silent passes
  | acknowledged settled => exact change_of_acknowledged settled passes
  | notAcknowledged refused => exact change_of_settled passes
  | rejected settled => exact change_of_rejected settled passes
  | notRejected refused => exact change_of_settled passes
  | reconnected possible =>
      rw [show stage = custody number from passes, Function.update_eq_self]
      exact .adjust shop.queue.prefetch false
  | notReconnected possible => exact silent passes
  | stored possible => exact change_of_stored passes
  | notStored possible => exact change_of_notStored possible passes
  | cleared =>
      change (crew.worker number).Advances (custody number) (.cleared _) stage at passes
      generalize stage_eq : custody number = before at passes
      cases passes with
      | cleared redelivered mentioned =>
          rw [← stage_eq, Function.update_eq_self]
          exact .clear stage_eq mentioned
  | notCleared =>
      change (crew.worker number).Advances (custody number) (.cleared _) stage at passes
      generalize stage_eq : custody number = before at passes
      cases passes with
      | cleared redelivered mentioned => exact silent stage_eq.symm
  | @shared call answer =>
      cases call with
      | broadcast swaps =>
          change (crew.worker number).Advances (custody number) (.broadcast _) stage at passes
          generalize custody number = before at passes
          cases passes
          exact .drop rfl
      | _ => exact silent passes

end Workshop

namespace Shift

variable {catalogue : Catalogue} {crew : Crew}

/-- Every worker goes on as what it has in hand demands. -/
def Attends (crew : Crew) (programs : Nat → Program Services (Option Job))
    (custody : Nat → Custody) : Prop :=
  ∀ number, (programs number).Keeps (crew.worker number).custody
    (fun _ stage => stage = .free) (custody number)

theorem Attends.update {programs : Nat → Program Services (Option Job)} {custody : Nat → Custody}
    (attends : Attends crew programs custody) {number : Nat}
    {program : Program Services (Option Job)} {stage : Custody}
    (keeps : program.Keeps (crew.worker number).custody (fun _ stage => stage = .free)
      stage) :
    Attends crew (Function.update programs number program)
      (Function.update custody number stage) := by
  intro other
  by_cases same : other = number
  · subst same
    rw [Function.update_self, Function.update_self]
    exact keeps
  · rw [Function.update_of_ne same, Function.update_of_ne same]
    exact attends other

theorem keeps_turn (crew : Crew) (number : Nat) (started : Bool) :
    ((crew.worker number).turn started).Keeps (crew.worker number).custody
      (fun _ stage => stage = .free) .free :=
  Worker.keeps_turn fun _ => rfl

/-- What holds of workers at work. -/
def Sound (crew : Crew) (catalogue : Catalogue) (shift : Shift) : Prop :=
  ∃ custody, Workshop.Sound catalogue crew.registry shift.shop custody ∧
    Attends crew shift.programs custody

theorem sound_initial (prefetch : UInt16) :
    Sound crew catalogue ⟨.initial prefetch, fun number => (crew.worker number).turn false⟩ := by
  refine ⟨fun _ => .free,
    ⟨⟨⟨.nil, nofun⟩, fun _ _ => nofun, fun _ _ _ => nofun, fun _ _ _ _ => nofun⟩, ?_,
      fun _ _ => nofun, ?_⟩, fun number => keeps_turn crew number false⟩
  · rintro payload (queued | acknowledged | ⟨_, _, taken, _⟩)
    · cases queued
    · cases acknowledged
    · cases taken
  · rintro swap (⟨_, acknowledged, _⟩ | ⟨_, _, stored, _⟩)
    · cases acknowledged
    · cases stored

theorem Sound.step {shift next : Shift} (sound : Sound crew catalogue shift)
    (step : Step crew catalogue shift next) : Sound crew catalogue next := by
  rcases sound with ⟨custody, sound, attends⟩
  cases step with
  | publish described => exact ⟨custody, sound.change (.publish described), attends⟩
  | close => exact ⟨custody, sound.change .close, attends⟩
  | reopen => exact ⟨custody, sound.change (.adjust _ _), attends⟩
  | setPrefetch => exact ⟨custody, sound.change (.adjust _ _), attends⟩
  | @ask number request resume answer next asks answers =>
      have asked := attends number
      rw [asks] at asked
      rcases asked answer with ⟨stage, passes, later⟩
      refine ⟨Function.update custody number stage, ?_, attends.update later⟩
      cases seen : request.answeredCall? answer with
      | none =>
          rw [seen] at passes answers
          rw [show stage = custody number from passes, show next = shift.shop from answers,
            Function.update_eq_self]
          exact sound
      | some answered =>
          rw [seen] at passes answers
          exact sound.change (Workshop.change_of_serves answers passes)
  | @turn number job ended =>
      have free := attends number
      rw [ended] at free
      have same : Function.update custody number .free = custody := by
        rw [← show custody number = .free from free, Function.update_eq_self]
      exact ⟨custody, sound, same ▸ attends.update (keeps_turn crew number true)⟩

theorem sound_of_reachable {shift : Shift} (reachable : Reachable crew catalogue shift) :
    Sound crew catalogue shift := by
  induction reachable with
  | initial prefetch => exact sound_initial prefetch
  | step _ step ih => exact ih.step step

/-- Workers as they are by default. -/
def pool : Crew := ⟨.standard, fun number => ⟨number, .standard, .insert, .reconnect⟩, fun _ => rfl⟩

/-- Two trades of one transaction, as the only ones of their item. -/
def routedItem : WorkItem := ⟨250000000, 1700000000, [Transaction.routedTrades]⟩

def routedCatalogue : Catalogue := fun _ => (Transaction.routedTrades, 1700000000, 250000000)

theorem ofPayload?_routedItem : WorkItem.ofPayload? routedItem.toPayload = some routedItem := by
  rw [WorkItem.ofPayload?, WorkItem.toPayload, Json.compact, Json.parse?, String.toList_ofList]
  decide +kernel

theorem describes_routedItem : routedCatalogue.Describes routedItem.toPayload := by
  intro item readable transaction member
  rw [ofPayload?_routedItem, Option.some.injEq] at readable
  subst readable
  rw [List.mem_singleton.mp member]
  rfl

theorem swaps_routedItem_ne : routedItem.swaps pool.registry ≠ [] := by
  have two : (routedItem.swaps pool.registry).length = 2 := by decide +kernel
  exact List.ne_nil_of_length_eq_add_one two

/-- A swap of an item that has been acknowledged is not lost: a row tells of it, or an item with its
transaction is in the queue. The one exception are transactions of which rows have been removed by a
worker whose delivery the queue had taken back. -/
theorem stored_or_queued {shift : Shift} (reachable : Reachable crew catalogue shift)
    {payload : String} (acknowledged : payload ∈ shift.shop.acknowledged) {item : WorkItem}
    (readable : WorkItem.ofPayload? payload = some item) {transaction : Transaction}
    (member : transaction ∈ item.transactions) {swap : SwapRecord}
    (found : swap ∈ transaction.swaps crew.registry item.blockTime item.blockNumber)
    (unstrayed : transaction.signature ∉ shift.shop.strayed) :
    (∃ row ∈ shift.shop.rows, Tables.Conflicts row swap) ∨
      ∃ queued ∈ shift.shop.queued, ∃ other, WorkItem.ofPayload? queued = some other ∧
        transaction ∈ other.transactions := by
  rcases sound_of_reachable reachable with ⟨custody, sound, _⟩
  have carries : Carries crew.registry payload swap :=
    ⟨item, readable, List.mem_flatMap.mpr ⟨transaction, member, found⟩⟩
  have described := sound.described payload (.inr (.inl acknowledged))
  have tells (queued : String) (inQueue : queued ∈ shift.shop.queued)
      (carries' : Carries crew.registry queued swap) :
      ∃ other, WorkItem.ofPayload? queued = some other ∧ transaction ∈ other.transactions := by
    rcases carries' with ⟨other, readable', found'⟩
    rcases List.mem_flatMap.mp found' with ⟨transaction', member', found'⟩
    have same := sound.described queued (.inl inQueue) other readable' transaction' member'
    rw [← Transaction.id_of_mem_swaps found', Transaction.id_of_mem_swaps found,
      described item readable transaction member, Prod.mk.injEq] at same
    exact ⟨other, readable', same.1 ▸ member'⟩
  rcases sound.kept swap (.inl ⟨payload, acknowledged, carries⟩) with stored | expected | stray
  · exact .inl stored
  · right
    rcases expected with ⟨queued, waits, carries'⟩ | ⟨entry, held, carries', _⟩
    · have inQueue := Workshop.mem_queued.mpr (.inl ⟨queued, waits, rfl⟩)
      exact ⟨_, inQueue, tells _ inQueue carries'⟩
    · have inQueue := Workshop.mem_queued.mpr (.inr ⟨entry, held, rfl⟩)
      exact ⟨_, inQueue, tells _ inQueue carries'⟩
  · rw [Transaction.id_of_mem_swaps found] at stray
    exact absurd stray unstrayed

/-- After the third worker, before the second goes on. -/
theorem routedItem_stored_or_queued :
    ∃ shift swap, Reachable pool routedCatalogue shift ∧
      routedItem.toPayload ∈ shift.shop.acknowledged ∧
      WorkItem.ofPayload? routedItem.toPayload = some routedItem ∧
      Transaction.routedTrades ∈ routedItem.transactions ∧
      swap ∈ Transaction.routedTrades.swaps pool.registry routedItem.blockTime
        routedItem.blockNumber ∧
      Transaction.routedTrades.signature ∉ shift.shop.strayed ∧
      ((∃ row ∈ shift.shop.rows, Tables.Conflicts row swap) ∨
        ∃ queued ∈ shift.shop.queued, ∃ other, WorkItem.ofPayload? queued = some other ∧
          Transaction.routedTrades ∈ other.transactions) := by
  rcases List.exists_mem_of_ne_nil _ swaps_routedItem_ne with ⟨swap, found⟩
  rw [show routedItem.swaps pool.registry = Transaction.routedTrades.swaps pool.registry
    routedItem.blockTime routedItem.blockNumber from List.append_nil _] at found
  rcases exists_reachable_stored describes_routedItem ofPayload?_routedItem rfl
    swaps_routedItem_ne with ⟨_, _, stored, _⟩
  exact ⟨_, swap, stored, List.mem_cons_self, ofPayload?_routedItem, List.mem_cons_self, found,
    nofun, stored_or_queued stored List.mem_cons_self ofPayload?_routedItem List.mem_cons_self found
      nofun⟩

/-- After the second worker has gone on: the payload has been acknowledged, no worker has anything
in hand, and neither a row nor an item in the queue tells of the trades. -/
theorem routedItem_lost :
    ∃ shift, Reachable pool routedCatalogue shift ∧ (∀ number, Rests pool shift.programs number) ∧
      routedItem.toPayload ∈ shift.shop.acknowledged ∧
      WorkItem.ofPayload? routedItem.toPayload = some routedItem ∧
      routedItem.swaps pool.registry ≠ [] ∧ shift.shop.rows = [] ∧ shift.shop.queued = [] := by
  rcases exists_reachable_lost describes_routedItem ofPayload?_routedItem rfl
    swaps_routedItem_ne with ⟨_, _, lost, rests⟩
  exact ⟨_, lost, rests, List.mem_cons_self, ofPayload?_routedItem, swaps_routedItem_ne, rfl, rfl⟩

end Shift

end SwapLedger
