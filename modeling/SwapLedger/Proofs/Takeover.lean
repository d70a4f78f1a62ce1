import SwapLedger.Proofs.Redelivery

/-!
# A payload that is taken over

When the connection of the queue breaks, what a worker holds is handed to another one, and the first
worker does not notice before it settles. This file follows a payload of one transaction through the
hands of three workers. The first gives it back, so that those after it remove rows before they
store any. The second takes it and loses it to the third, which stores its swaps and acknowledges
it. If the second then goes on and does not get to store the swaps again, they are gone.
-/

namespace SwapLedger

namespace Shift

variable {crew : Crew} {catalogue : Catalogue} {payload : String} {item : WorkItem}
  {signature : String}

/-- Nothing but one payload in the queue. -/
def waitingShop (payload : String) (redelivered : Bool) (nextTag : Nat)
    (taken : Nat → Option Delivery) : Workshop :=
  ⟨⟨[⟨payload, redelivered⟩], [], nextTag, 0, false⟩, [], [], taken, []⟩

/-- The payload has been taken by a worker. -/
def takenShop (payload : String) (redelivered : Bool) (tag : Nat) (taken : Nat → Option Delivery)
    (rows : List SwapRecord) : Workshop :=
  ⟨⟨[], [(tag, ⟨payload, redelivered⟩)], tag + 1, 0, false⟩, rows, [], taken, []⟩

/-- The payload has been acknowledged. -/
def settledShop (payload : String) (nextTag : Nat) (taken : Nat → Option Delivery)
    (rows : List SwapRecord) (strayed : List String) : Workshop :=
  ⟨⟨[], [], nextTag, 0, false⟩, rows, [payload], taken, strayed⟩

theorem swaps_worker_ne (swaps_ne : item.swaps crew.registry ≠ []) (number : Nat) :
    item.swaps (crew.worker number).registry ≠ [] := by
  rw [crew.registry_eq]
  exact swaps_ne

theorem settle_takenShop (payload : String) (redelivered : Bool) (tag : Nat)
    (taken : Nat → Option Delivery) (rows : List SwapRecord) :
    (takenShop payload redelivered tag taken rows).queue.settle tag =
      .ok (⟨payload, redelivered⟩, ⟨[], [], tag + 1, 0, false⟩) := by
  rw [MemoryQueue.settle_eq_ok]
  simp [takenShop]

theorem exists_takes (worker : Worker) (payload : String) (redelivered : Bool) (number tag : Nat)
    (taken : Nat → Option Delivery) :
    ∃ rest,
      Performs number (waitingShop payload redelivered tag taken) (worker.turn false)
        (takenShop payload redelivered tag
          (Function.update taken number (some ⟨tag, payload, redelivered⟩)) []) rest ∧
      ∀ changed last settlement,
        Performs number changed (worker.handle ⟨tag, payload, redelivered⟩) last
            (.done settlement) →
          Performs number changed rest last (.done (some (.worker worker.id true))) :=
  Performs.exists_takes worker rfl

/-- A worker that has taken the payload gives it back. -/
theorem performs_giveBack (readable : WorkItem.ofPayload? payload = some item)
    (swaps_ne : item.swaps crew.registry ≠ []) (number tag : Nat) (taken : Nat → Option Delivery) :
    Performs number (takenShop payload false tag taken [])
      ((crew.worker number).handle ⟨tag, payload, false⟩) (waitingShop payload true (tag + 1) taken)
      (.done .requeued) := by
  have settled := settle_takenShop payload false tag taken []
  refine .handle readable (.here _ _) (swaps_worker_ne swaps_ne number) (.inl rfl)
    (.notStored (Option.some_ne_none _).symm) ?_
  exact .givesBack (MemoryQueue.reject_of_settle_ok settled true)

/-- A worker that has taken the payload stores its swaps and acknowledges it. -/
theorem performs_store (readable : WorkItem.ofPayload? payload = some item)
    (signatures : item.signatures = [signature]) (swaps_ne : item.swaps crew.registry ≠ [])
    {number tag : Nat} {taken : Nat → Option Delivery}
    (inHand : taken number = some ⟨tag, payload, true⟩) :
    Performs number (takenShop payload true tag taken [])
      ((crew.worker number).handle ⟨tag, payload, true⟩)
      (settledShop payload (tag + 1) taken ((item.swaps crew.registry).foldl Tables.insertSwap [])
        []) (.done .acknowledged) := by
  have holds : (takenShop payload true tag taken []).Holds number :=
    ⟨_, inHand, by simp [takenShop]⟩
  have cleared : (takenShop payload true tag taken []).clear number signature =
      takenShop payload true tag taken [] := by
    rw [Workshop.clear, if_pos holds]
    rfl
  have clearing : Performs number (takenShop payload true tag taken [])
      ((crew.worker number).clear item.signatures) (takenShop payload true tag taken [])
      (.done ()) := by
    have clears := @Performs.clears number (takenShop payload true tag taken [])
      (crew.worker number) signature
    rwa [cleared, ← signatures] at clears
  have settled := settle_takenShop payload true tag taken
    ((item.swaps crew.registry).foldl Tables.insertSwap [])
  have acknowledges := @Performs.acknowledges number _ (crew.worker number) tag _
    (MemoryQueue.acknowledge_of_settle_ok settled)
  rw [Workshop.acknowledge, MemoryQueue.heldUnder?, settled] at acknowledges
  refine .handle readable clearing (swaps_worker_ne swaps_ne number) (.inr rfl)
    (.stored (.inl rfl)) ?_
  rw [crew.registry_eq]
  exact acknowledges

/-- A worker that goes on with the payload after it has been settled removes its rows. -/
theorem performs_stray (readable : WorkItem.ofPayload? payload = some item)
    (signatures : item.signatures = [signature]) (swaps_ne : item.swaps crew.registry ≠ [])
    (number tag nextTag : Nat) (taken : Nat → Option Delivery) {rows : List SwapRecord}
    (all : ∀ row ∈ rows, row.id = signature) :
    Performs number (settledShop payload nextTag taken rows [])
      ((crew.worker number).handle ⟨tag, payload, true⟩)
      (settledShop payload nextTag taken [] [signature]) (.done .requeued) := by
  have gone : ¬ (settledShop payload nextTag taken rows []).Holds number := by
    rintro ⟨_, _, held⟩
    cases held
  have none_left : rows.filter (·.id != signature) = [] := by
    simpa [List.filter_eq_nil_iff] using all
  have cleared : (settledShop payload nextTag taken rows []).clear number signature =
      settledShop payload nextTag taken [] [signature] := by
    rw [Workshop.clear, if_neg gone, settledShop, none_left]
    rfl
  have clearing : Performs number (settledShop payload nextTag taken rows [])
      ((crew.worker number).clear item.signatures)
      (settledShop payload nextTag taken [] [signature]) (.done ()) := by
    rw [signatures, ← cleared]
    exact .clears signature
  have unknown := MemoryQueue.settle_eq_error
    (show tag ∉ (settledShop payload nextTag taken [] [signature]).queue.held.map Prod.fst by
      simp [settledShop])
  refine .handle readable clearing (swaps_worker_ne swaps_ne number) (.inl rfl)
    (.notStored (Option.some_ne_none _).symm) ?_
  exact .givesUp (MemoryQueue.reject_of_settle_error unknown true)

/-- A worker has not started yet, or is at the end of a turn. -/
def Rests (crew : Crew) (programs : Nat → Program Services (Option Job)) (number : Nat) : Prop :=
  programs number = (crew.worker number).turn false ∨ ∃ job, programs number = .done (some job)

theorem Rests.of_ne {programs : Nat → Program Services (Option Job)} {number other : Nat}
    (rests : Rests crew programs number) (apart : number ≠ other)
    (program : Program Services (Option Job)) :
    Rests crew (Function.update programs other program) number := by
  rw [Rests, Function.update_of_ne apart]
  exact rests

theorem Rests.update {programs : Nat → Program Services (Option Job)} {number : Nat}
    (rests : Rests crew programs number) (other : Nat) (job : Job) :
    Rests crew (Function.update programs other (.done (some job))) number := by
  by_cases same : number = other
  · subst same
    exact .inr ⟨job, Function.update_self _ _ _⟩
  · exact rests.of_ne same _

/-- Three workers take the same payload. The first gives it back; before the second goes on, the
queue is closed, so that the third takes it as well and stores its swaps. -/
theorem exists_reachable_stored (described : catalogue.Describes payload)
    (readable : WorkItem.ofPayload? payload = some item)
    (signatures : item.signatures = [signature]) (swaps_ne : item.swaps crew.registry ≠ []) :
    ∃ taken programs,
      Reachable crew catalogue
        ⟨settledShop payload 4 taken ((item.swaps crew.registry).foldl Tables.insertSwap []) [],
          programs⟩ ∧
      (∀ number, number ≠ 1 → Rests crew programs number) ∧
      ∀ changed last settlement,
        Performs 1 changed ((crew.worker 1).handle ⟨2, payload, true⟩) last (.done settlement) →
          Performs 1 changed (programs 1) last
            (.done (some (.worker (crew.worker 1).id true))) := by
  have offered : Reachable crew catalogue
      ⟨waitingShop payload false 1 fun _ => none, fun number => (crew.worker number).turn false⟩ :=
    .step (.initial 0) (.publish described)
  rcases exists_takes (crew.worker 0) payload false 0 1 fun _ => none with
    ⟨_, takes, finishes⟩
  have returned := (takes.trans
    (finishes _ _ _ (performs_giveBack readable swaps_ne 0 1 _))).reachable offered
  rcases exists_takes (crew.worker 1) payload true 1 2
    (Function.update (fun _ => none) 0 (some ⟨1, payload, false⟩)) with ⟨rest, takes, goesOn⟩
  have waiting := ((takes.reachable returned).step .close).step .reopen
  rcases exists_takes (crew.worker 2) payload true 2 3
    (Function.update (Function.update (fun _ => none) 0 (some ⟨1, payload, false⟩)) 1
      (some ⟨2, payload, true⟩)) with ⟨_, takes, finishes⟩
  have stored := (takes.trans (finishes _ _ _
    (performs_store readable signatures swaps_ne (Function.update_self _ _ _)))).reachable waiting
  refine ⟨_, _, stored, ?_, goesOn⟩
  intro number other
  have started : Rests crew (fun number => (crew.worker number).turn false) number := .inl rfl
  exact ((started.update 0 _).of_ne other rest).update 2 _

/-- Then the second worker removes the rows, is told to stop before it has stored them again, and
cannot give back what the queue has handed to the third. -/
theorem exists_reachable_lost (described : catalogue.Describes payload)
    (readable : WorkItem.ofPayload? payload = some item)
    (signatures : item.signatures = [signature]) (swaps_ne : item.swaps crew.registry ≠ []) :
    ∃ taken programs,
      Reachable crew catalogue ⟨settledShop payload 4 taken [] [signature], programs⟩ ∧
      ∀ number, Rests crew programs number := by
  rcases exists_reachable_stored described readable signatures swaps_ne with
    ⟨taken, programs, stored, rests, goesOn⟩
  have all : ∀ row ∈ (item.swaps crew.registry).foldl Tables.insertSwap [], row.id = signature := by
    intro row kept
    have found : row ∈ item.swaps crew.registry := Tables.foldl_insertSwap_subset _ _ kept
    have named := WorkItem.id_mem_signatures found
    rwa [signatures, List.mem_singleton] at named
  have strays := goesOn _ _ _ (performs_stray readable signatures swaps_ne 1 2 4 taken all)
  refine ⟨taken, _, strays.reachable stored, fun number => ?_⟩
  by_cases second : number = 1
  · subst second
    exact .inr ⟨_, Function.update_self _ _ _⟩
  · exact (rests number second).update 1 _

end Shift

end SwapLedger
