import SwapLedger.Proofs.Discipline
import SwapLedger.Worker

/-!
# Programs that make only some calls

A program for which nothing but some calls exists leaves everything else alone, whatever it is that
others care for. So which calls a program makes is found out once: a worker that deals with a
delivery only settles it, stores swaps and announces them, and one that has lost the queue only asks
for it again.
-/

namespace SwapLedger

/-- The discipline to which every call matters but some. -/
def Discipline.except {interface : Interface} (overlooked : interface.Call → Bool) :
    Discipline interface (AnsweredCall interface) Unit :=
  ⟨fun answered => if overlooked answered.call then none else some answered, fun _ _ _ => True⟩

namespace Program

variable {interface : Interface} {Event Stage Event' Stage' Result : Type}
  {discipline : Discipline interface Event Stage} {other : Discipline interface Event' Stage'}

/-- What one discipline overlooks matters to no other one that overlooks as much. -/
theorem Silent.of_silent {program : Program interface Result} (silent : program.Silent discipline)
    (overlooked : ∀ call, (∀ answer, discipline.event? ⟨call, answer⟩ = none) →
      ∀ answer, other.event? ⟨call, answer⟩ = none) : program.Silent other := by
  induction program with
  | done result => trivial
  | ask request resume ih =>
      refine ⟨?_, fun answer => ih answer (silent.2 answer)⟩
      intro call called
      exact overlooked call (silent.1 call called)

variable {only : interface.Call → Bool}

/-- A program that makes only some calls is silent to everyone who overlooks these. -/
theorem Silent.of_except {program : Program interface Result}
    (silent : program.Silent (.except only))
    (overlooked : ∀ call answer, only call = true → discipline.event? ⟨call, answer⟩ = none) :
    program.Silent discipline := by
  apply silent.of_silent
  intro call unseen answer
  apply overlooked
  simpa [Discipline.except] using unseen none

/-- A program that makes only some calls makes only some of more calls. -/
theorem Silent.widen {more : interface.Call → Bool} {program : Program interface Result}
    (silent : program.Silent (.except only))
    (wider : ∀ call, only call = true → more call = true) : program.Silent (.except more) :=
  silent.of_except fun call _ made => if_pos (wider call made)

theorem silent_except_call {call : interface.Call} (made : only call = true) :
    (Program.call call).Silent (.except only) :=
  silent_call fun _ => if_pos made

/-- Something silent that is done under a condition leaves a program as silent as it is without it.
-/
theorem silent_when {condition : Prop} [Decidable condition] {first : Program interface Unit}
    {next : Unit → Program interface Result} (before : first.Silent discipline)
    (later : (next ()).Silent discipline) :
    (if condition then first >>= next else next ()).Silent discipline := by
  split
  · exact before.bind fun _ => later
  · exact later

end Program

namespace Worker

open Program

variable {worker : Worker}

/-- What a worker calls around the storing of swaps. -/
def settling : ServiceCall → Bool
  | .queue (.acknowledge _) | .queue (.reject _ _) => true
  | .shared (.addLookup _) | .shared (.broadcast _) => true
  | _ => false

/-- What a worker calls to remove what an earlier attempt may have stored. -/
def clearing : ServiceCall → Bool
  | .store (.deleteSwaps _) => true
  | _ => false

/-- What a worker calls to deal with a delivery. -/
def dealing : ServiceCall → Bool
  | .store (.deleteSwaps _) | .store (.insertSwaps _) => true
  | call => settling call

/-- What a worker calls to have the queue again. -/
def reconnecting : ServiceCall → Bool
  | .queue .reconnect => true
  | .shared .lockReconnect | .shared .unlockReconnect => true
  | _ => false

theorem dealing_of_settling {call : ServiceCall} (made : settling call = true) :
    dealing call = true := by
  unfold dealing
  split
  · rfl
  · rfl
  · exact made

theorem dealing_of_clearing {call : ServiceCall} (made : clearing call = true) :
    dealing call = true := by
  unfold clearing at made
  split at made
  · rfl
  · cases made

/-- To settle a delivery takes only the call that settles it. -/
theorem settle_settling (tag : Nat) (settlement : Settlement) :
    (worker.settle tag settlement).Silent (.except settling) := by
  cases settlement with
  | acknowledged | rejected | requeued =>
      refine (silent_except_call rfl).bind fun outcome => ?_
      cases outcome with
      | ok _ => exact silent_pure
      | error failure => exact (silent_request rfl).bind fun _ => silent_pure

/-- To ask for metadata takes only calls that ask for it. -/
theorem addLookups_settling (addresses : List Address) :
    (addLookups addresses).Silent (.except settling) := by
  induction addresses with
  | nil => exact silent_pure
  | cons address rest ih =>
      refine (silent_except_call rfl).bind fun lost => ?_
      cases lost with
      | false => exact ih
      | true => exact (silent_request rfl).bind fun _ => ih

/-- What is left to do once the swaps of an item are stored. -/
def finish (worker : Worker) (tag : Nat) (item : WorkItem) (started : Nat) :
    Program Services Settlement := do
  let settlement ← worker.settle tag .acknowledged
  if (item.swaps worker.registry).isEmpty = false then
    Services.shared (.broadcast (item.swaps worker.registry))
  .report (.batch item.blockNumber.toNat item.transactions.length
    (item.swaps worker.registry).length ((← .clock) - started))
  return settlement

/-- What is left to do once nothing of an earlier attempt is in the way. -/
def storeSwaps (worker : Worker) (tag : Nat) (item : WorkItem) (started : Nat) :
    Program Services Settlement := do
  .reportAll (item.detectionLog worker.registry)
  addLookups ((item.swaps worker.registry).flatMap (·.lookups))
  if (item.swaps worker.registry).isEmpty then worker.finish tag item started
  else
    match ← (worker.insert (item.swaps worker.registry)).unlessStopped with
    | none => worker.settle tag .requeued
    | some (.ok ()) => worker.finish tag item started
    | some (.error failure) =>
      .report (.failure ("Worker " ++ toString worker.id ++ " slot " ++ toString item.blockNumber)
        failure.message)
      worker.settle tag .requeued

/-- Dealing with an item is removing what an earlier attempt may have left, and then storing its
swaps. -/
theorem handleItem_eq (tag : Nat) (redelivered : Bool) (item : WorkItem) :
    worker.handleItem tag redelivered item = (do
      let started ← .clock
      if redelivered then worker.clear item.signatures
      worker.storeSwaps tag item started) := rfl

theorem finish_settling (tag : Nat) (item : WorkItem) (started : Nat) :
    (worker.finish tag item started).Silent (.except settling) := by
  refine (settle_settling _ _).bind fun settlement => ?_
  refine silent_when (silent_except_call rfl) ?_
  refine (silent_request rfl).bind fun finished => ?_
  exact (silent_request rfl).bind fun _ => silent_pure

/-- To remove what an earlier attempt may have left takes only removals. -/
theorem clear_clearing (signatures : List String) :
    (worker.clear signatures).Silent (.except clearing) := by
  induction signatures with
  | nil => exact silent_pure
  | cons signature rest ih =>
      refine (silent_except_call rfl).bind fun outcome => ?_
      cases outcome with
      | ok _ => exact ih
      | error failure => exact (silent_request rfl).bind fun _ => ih

/-- To store swaps takes only insertions, however often they are repeated. -/
theorem insert_dealing (swaps : List SwapRecord) :
    (worker.insert swaps).Silent (.except dealing) := by
  have inserting : (Services.store (.insertSwaps swaps)).Silent (.except dealing) :=
    silent_except_call rfl
  exact (inserting.retryingFrom _ _ _ _).bind fun _ => silent_pure

theorem storeSwaps_dealing (tag : Nat) (item : WorkItem) (started : Nat) :
    (worker.storeSwaps tag item started).Silent (.except dealing) := by
  have settle : (worker.settle tag .requeued).Silent (.except dealing) :=
    (settle_settling tag .requeued).widen fun _ => dealing_of_settling
  have finish := (@finish_settling worker tag item started).widen fun _ => dealing_of_settling
  rw [storeSwaps]
  refine silent_reportAll.bind fun _ => ?_
  refine ((addLookups_settling _).widen fun _ => dealing_of_settling).bind fun _ => ?_
  split
  · exact finish
  · refine (insert_dealing _).unlessStopped.bind fun outcome => ?_
    rcases outcome with _ | failure | ⟨⟩
    · exact settle
    · exact (silent_request rfl).bind fun _ => settle
    · exact finish

theorem handleItem_dealing (tag : Nat) (redelivered : Bool) (item : WorkItem) :
    (worker.handleItem tag redelivered item).Silent (.except dealing) := by
  rw [handleItem_eq]
  refine (silent_request rfl).bind fun started => ?_
  refine silent_when ((clear_clearing _).widen fun _ => dealing_of_clearing) ?_
  exact storeSwaps_dealing tag item started

/-- To deal with a delivery, a worker removes and stores swaps, asks for metadata, settles the
delivery and announces the swaps, and calls nothing else. -/
theorem handle_dealing (delivery : Delivery) :
    (worker.handle delivery).Silent (.except dealing) := by
  rw [handle]
  split
  · exact handleItem_dealing _ _ _
  · refine (silent_request rfl).bind fun _ => ?_
    exact (settle_settling _ _).widen fun _ => dealing_of_settling

/-- To have the queue again, a worker takes its turn and asks the queue to reconnect, and calls
nothing else. -/
theorem reconnect_reconnecting (reason : String) :
    (worker.reconnect reason).Silent (.except reconnecting) := by
  have asking : (Services.queue .reconnect).Silent (.except reconnecting) := silent_except_call rfl
  refine (silent_request rfl).bind fun _ => ?_
  refine (silent_except_call rfl).bind fun _ => ?_
  refine (asking.retryingFrom _ _ _ _).unlessStopped.bind fun outcome => ?_
  refine (silent_except_call rfl).bind fun _ => ?_
  rcases outcome with _ | failure | ⟨⟩
  · exact silent_pure
  · exact (silent_request rfl).bind fun _ => silent_pure
  · exact silent_pure

end Worker

end SwapLedger
