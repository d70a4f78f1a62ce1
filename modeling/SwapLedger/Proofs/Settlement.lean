import SwapLedger.Proofs.LostSwaps
import SwapLedger.Proofs.WorkerEnds

/-!
# How deliveries are settled

A delivery is settled once. It is acknowledged only after the store has been seen to keep all of its
swaps, or if it has none; it is thrown away just if it cannot be read; and it is given back if the
attempts to store its swaps have been used up, if one of them failed for a reason that will not
pass, or if the worker was told to stop before it has seen one succeed. All this is read off the
requests of a worker and their answers, first for a round of attempts that may be given up, then for
one delivery, and in the end for the whole life of a worker.
-/

namespace SwapLedger

namespace WorkerEvent

/-- What a request and its answer are to others: what was called, or else that the worker was told
to stop. -/
def ofRequest? (answered : AnsweredRequest Services) : Option WorkerEvent :=
  (answered.event? of?).or (if answered.request.Stops answered.answer then some stopped else none)

/-- What others can tell of a run. -/
def ofTrace (trace : List (AnsweredRequest Services)) : List WorkerEvent :=
  trace.filterMap ofRequest?

/-- Attempts to store swaps of which each failed. -/
def failed (swaps : List SwapRecord) (failures : List Failure) : List WorkerEvent :=
  failures.map fun failure => inserted swaps (some (.error failure))

/-- Attempts of which each failed, as such among the outcomes of attempts. -/
theorem map_inserted_error (swaps : List SwapRecord) (failures : List Failure) :
    (failures.map Except.error).map (fun outcome => inserted swaps (some outcome)) =
      failed swaps failures := List.map_map

variable {trace : List (AnsweredRequest Services)}

@[simp]
theorem ofTrace_report {entry : LogEntry} {answer : Unit} :
    ofTrace (⟨.report entry, answer⟩ :: trace) = ofTrace trace := rfl

@[simp]
theorem ofTrace_clock {instant : Nat} :
    ofTrace (⟨.clock, instant⟩ :: trace) = ofTrace trace := rfl

@[simp]
theorem ofTrace_nil : ofTrace [] = [] := rfl

theorem ofTrace_append (before after : List (AnsweredRequest Services)) :
    ofTrace (before ++ after) = ofTrace before ++ ofTrace after := List.filterMap_append

theorem ofTrace_of_reportAll {entries : List LogEntry} {result : Unit}
    (traces : (Program.reportAll entries : Program Services Unit).Traces trace result) :
    ofTrace trace = [] := by
  rw [Program.traces_reportAll.mp traces, ofTrace, List.filterMap_map]
  exact List.filterMap_eq_nil_iff.mpr fun _ _ => rfl

end WorkerEvent

namespace RetryPolicy

/-- Whether attempts have failed, each for a reason that may pass, and another one is allowed. -/
def Pending (policy : RetryPolicy) (failures : List Failure) : Prop :=
  failures.length < policy.maxAttempts ∧ ∀ failure ∈ failures, failure.isTransient = true

/-- A round that succeeds has failed before only for reasons that may pass. -/
theorem Concludes.of_ok {Result : Type} {retriesLeft number : Nat}
    {outcomes : List (Except Failure Result)} {result : Result}
    (concludes : Concludes retriesLeft number outcomes (.ok result)) :
    ∃ former : List Failure, outcomes = former.map .error ++ [.ok result] ∧
      former.length ≤ retriesLeft ∧ ∀ failure ∈ former, failure.isTransient = true := by
  generalize ended : (Except.ok result : Except Failure Result) = outcome at concludes
  induction concludes with
  | succeeds => exact ⟨[], by rw [← ended]; rfl, Nat.zero_le _, nofun⟩
  | refused | exhausted => cases ended
  | @again _ _ first _ _ transient _ ih =>
      rcases ih ended with ⟨former, rfl, fits, passing⟩
      exact ⟨first :: former, rfl, Nat.succ_le_succ fits,
        List.forall_mem_cons.mpr ⟨transient, passing⟩⟩

end RetryPolicy

open WorkerEvent

/-- What others see of a round of attempts that is given up when the worker is told to stop, given
what they see of an attempt, and how the round ends. -/
inductive Attempts (seen : Option (Except Failure Unit) → List WorkerEvent)
    (retriesLeft number : Nat) : List WorkerEvent → Option (Except Failure Unit) → Prop where
  | concluded {outcomes : List (Except Failure Unit)} {result : Except Failure Unit}
      (concludes : RetryPolicy.Concludes retriesLeft number outcomes result) :
      Attempts seen retriesLeft number (outcomes.flatMap fun outcome => seen (some outcome))
        (some result)
  /-- The last attempt was given up. -/
  | givenUp {former : List Failure} (fits : former.length ≤ retriesLeft)
      (passing : ∀ failure ∈ former, failure.isTransient = true) :
      Attempts seen retriesLeft number
        ((former.flatMap fun failure => seen (some (.error failure))) ++ seen none) none
  /-- The worker was told to stop after an attempt that failed, while it waited for the next. -/
  | stopped {former : List Failure} (tried : former ≠ []) (fits : former.length ≤ retriesLeft)
      (passing : ∀ failure ∈ former, failure.isTransient = true) :
      Attempts seen retriesLeft number
        ((former.flatMap fun failure => seen (some (.error failure))) ++ [.stopped]) none

namespace Attempts

variable {seen : Option (Except Failure Unit) → List WorkerEvent} {retriesLeft number : Nat}
  {events : List WorkerEvent} {outcome : Option (Except Failure Unit)} {failure : Failure}

/-- A round that ends with its first attempt. -/
theorem of_one {first result : Except Failure Unit}
    (concludes : RetryPolicy.Concludes retriesLeft number [first] result) :
    Attempts seen retriesLeft number (seen (some first)) (some result) := by
  simpa using Attempts.concluded concludes

/-- A round whose first attempt is given up. -/
theorem of_none : Attempts seen retriesLeft number (seen none) none := by
  have fits : ([] : List Failure).length ≤ retriesLeft := Nat.zero_le _
  simpa using Attempts.givenUp fits nofun

/-- A round in which the worker is told to stop after the first attempt. -/
theorem of_told (transient : failure.isTransient = true) :
    Attempts seen (retriesLeft + 1) number (seen (some (.error failure)) ++ [.stopped]) none := by
  have fits : [failure].length ≤ retriesLeft + 1 := Nat.succ_le_succ (Nat.zero_le _)
  have passing : ∀ other ∈ [failure], other.isTransient = true := by simpa using transient
  simpa using Attempts.stopped (List.cons_ne_nil _ _) fits passing

/-- One attempt that failed for a reason that may pass comes before the others. -/
theorem again (transient : failure.isTransient = true)
    (rest : Attempts seen retriesLeft (number + 1) events outcome) :
    Attempts seen (retriesLeft + 1) number (seen (some (.error failure)) ++ events) outcome := by
  have longer {former : List Failure} (fits : former.length ≤ retriesLeft)
      (passing : ∀ failure ∈ former, failure.isTransient = true) :
      (failure :: former).length ≤ retriesLeft + 1 ∧
        ∀ other ∈ failure :: former, other.isTransient = true :=
    ⟨Nat.succ_le_succ fits, List.forall_mem_cons.mpr ⟨transient, passing⟩⟩
  cases rest with
  | concluded concludes => exact .concluded (.again transient concludes)
  | givenUp fits passing =>
      simpa using Attempts.givenUp (longer fits passing).1 (longer fits passing).2
  | stopped _ fits passing =>
      simpa using
        Attempts.stopped (List.cons_ne_nil _ _) (longer fits passing).1 (longer fits passing).2

/-- A round of attempts of which nothing is seen unless one is given up. -/
theorem quiet
    (round : Attempts (fun outcome => if outcome.isNone then [.stopped] else []) retriesLeft number
      events outcome) : events = if outcome.isNone then [.stopped] else [] := by
  cases round with
  | concluded | givenUp | stopped => simp

variable {trace : List (AnsweredRequest Services)} {policy : RetryPolicy} {operation : String}
  {attempt : Program Services (Except Failure Unit)}

/-- Every round of attempts that may be given up is one of these. -/
theorem of_traces
    (attempted : ∀ trace outcome, attempt.unlessStopped.Traces trace outcome →
      ofTrace trace = seen outcome)
    (traces : (policy.retryingFrom operation attempt retriesLeft number).unlessStopped.Traces trace
      outcome) : Attempts seen retriesLeft number (ofTrace trace) outcome := by
  induction retriesLeft using Nat.strongRecOn generalizing number trace with
  | ind retriesLeft ih =>
      rw [RetryPolicy.retryingFrom.eq_def, Program.unlessStopped_bind] at traces
      rcases Program.traces_bind.mp traces with ⟨_, first, _, rfl, tried, rest⟩
      rw [ofTrace_append, attempted _ _ tried]
      rcases first with _ | failure | ⟨⟩
      · rcases Program.traces_pure.mp rest with ⟨rfl, rfl⟩
        simpa using of_none
      · by_cases transient : failure.isTransient = true
        · simp only [transient, Bool.true_eq_false, if_false] at rest
          cases retriesLeft with
          | zero =>
              rcases Program.traces_pure.mp rest with ⟨rfl, rfl⟩
              simpa using of_one (.exhausted transient)
          | succ retriesLeft =>
              rcases Program.traces_unlessStopped.mp rest with ⟨rfl, rfl⟩ | ⟨phase, _, rfl, drawn⟩
              · exact of_told transient
              rcases Program.traces_unlessStopped.mp drawn with ⟨rfl, rfl⟩ | ⟨_, _, rfl, reported⟩
              · exact of_told transient
              rcases Program.traces_unlessStopped.mp reported with ⟨rfl, rfl⟩ | ⟨_, _, rfl, waited⟩
              · exact of_told transient
              exact (ih retriesLeft (Nat.lt_succ_self _) waited).again transient
        · rw [Bool.not_eq_true] at transient
          simp only [transient, if_true] at rest
          rcases Program.traces_pure.mp rest with ⟨rfl, rfl⟩
          simpa using of_one (.refused transient)
      · rcases Program.traces_pure.mp rest with ⟨rfl, rfl⟩
        simpa using of_one (.succeeds ())

end Attempts

/-- What a worker does to store swaps, and whether it has seen the store keep them. -/
inductive Stores (policy : RetryPolicy) (swaps : List SwapRecord) :
    List WorkerEvent → (kept : Bool) → Prop where
  | kept {former : List Failure} (pending : policy.Pending former) :
      Stores policy swaps (failed swaps former ++ [.inserted swaps (some (.ok ()))]) true
  | exhausted {failures : List Failure} (exhausted : policy.Exhausted failures) :
      Stores policy swaps (failed swaps failures) false
  | refused {failures : List Failure} {last : Failure} (refused : policy.Refused failures last) :
      Stores policy swaps (failed swaps failures) false
  /-- The last attempt was given up. -/
  | givenUp {former : List Failure} (pending : policy.Pending former) :
      Stores policy swaps (failed swaps former ++ [.inserted swaps none]) false
  /-- The worker was told to stop while it waited for the next attempt. -/
  | stopped {former : List Failure} (tried : former ≠ []) (pending : policy.Pending former) :
      Stores policy swaps (failed swaps former ++ [.stopped]) false

/-- A round of attempts to store swaps, and whether it was seen to succeed. -/
theorem Stores.of_attempts {policy : RetryPolicy} {swaps : List SwapRecord}
    {events : List WorkerEvent} {outcome : Option (Except Failure Unit)}
    (attempts : Attempts (fun outcome => [.inserted swaps outcome]) policy.maxRetries.toNat 1 events
      outcome) : Stores policy swaps events (decide (outcome = some (.ok ()))) := by
  have fewer {former : List Failure} (fits : former.length ≤ policy.maxRetries.toNat) :
      former.length < policy.maxAttempts := Nat.lt_succ_of_le fits
  cases attempts with
  | @concluded outcomes result concludes =>
      rw [← List.map_eq_flatMap]
      rcases result with failure | ⟨⟩
      · rcases RetryPolicy.exhausted_or_refused concludes with
          ⟨failures, rfl, exhausted | ⟨last, refused⟩⟩
        · rw [map_inserted_error]
          exact .exhausted exhausted
        · rw [map_inserted_error]
          exact .refused refused
      · rcases concludes.of_ok with ⟨former, rfl, fits, passing⟩
        rw [List.map_append, map_inserted_error]
        exact .kept ⟨fewer fits, passing⟩
  | givenUp fits passing =>
      rw [← List.map_eq_flatMap]
      exact .givenUp ⟨fewer fits, passing⟩
  | stopped tried fits passing =>
      rw [← List.map_eq_flatMap]
      exact .stopped tried ⟨fewer fits, passing⟩

namespace Worker

variable (worker : Worker)

/-- What a worker does for a delivery and how it settles it, once nothing of an earlier attempt is
in the way. -/
inductive Settles (delivery : Delivery) : List WorkerEvent → Settlement → Prop where
  | unreadable (unread : WorkItem.ofPayload? delivery.payload = none) :
      Settles delivery [.settled delivery.tag .rejected] .rejected
  | idle (found : worker.swaps? delivery = some []) :
      Settles delivery [.settled delivery.tag .acknowledged] .acknowledged
  | stored {swaps : List SwapRecord} {storing : List WorkerEvent} (swaps_ne : swaps ≠ [])
      (found : worker.swaps? delivery = some swaps)
      (stores : Stores worker.insertRetry swaps storing true) :
      Settles delivery (storing ++ [.settled delivery.tag .acknowledged, .broadcast swaps])
        .acknowledged
  | unstored {swaps : List SwapRecord} {storing : List WorkerEvent} (swaps_ne : swaps ≠ [])
      (found : worker.swaps? delivery = some swaps)
      (stores : Stores worker.insertRetry swaps storing false) :
      Settles delivery (storing ++ [.settled delivery.tag .requeued]) .requeued

/-- What a worker asks the store to remove for a delivery, in order. -/
def removals (delivery : Delivery) : List WorkerEvent :=
  match WorkItem.ofPayload? delivery.payload with
  | some item => if delivery.redelivered then item.signatures.map .cleared else []
  | none => []

/-- What a worker does with a delivery: first it removes what another one may have left behind. -/
def Handles (delivery : Delivery) (events : List WorkerEvent) (settlement : Settlement) : Prop :=
  ∃ settling, events = removals delivery ++ settling ∧ worker.Settles delivery settling settlement

variable {worker} {delivery : Delivery} {tag : Nat} {settlement outcome : Settlement}
  {trace : List (AnsweredRequest Services)}

/-- However the queue answers, the delivery counts as settled. -/
theorem ofTrace_of_settle (traces : (worker.settle tag settlement).Traces trace outcome) :
    ofTrace trace = [.settled tag settlement] ∧ outcome = settlement := by
  cases settlement with
  | acknowledged | rejected | requeued =>
      rcases Program.traces_ask.mp traces with ⟨answer, _, rfl, rest⟩
      cases answer with
      | ok _ =>
          rcases Program.traces_pure.mp rest with ⟨rfl, rfl⟩
          exact ⟨rfl, rfl⟩
      | error failure =>
          rcases Program.traces_request.mp rest with ⟨_, _, rfl, reported⟩
          rcases Program.traces_pure.mp reported with ⟨rfl, rfl⟩
          exact ⟨rfl, rfl⟩

theorem ofTrace_of_clear {signatures : List String} {result : Unit}
    (traces : (worker.clear signatures).Traces trace result) :
    ofTrace trace = signatures.map .cleared := by
  induction signatures generalizing trace with
  | nil =>
      rcases Program.traces_pure.mp traces with ⟨rfl, _⟩
      rfl
  | cons signature rest ih =>
      rcases Program.traces_ask.mp traces with ⟨answer, _, rfl, removed⟩
      cases answer with
      | ok _ => exact congrArg _ (ih removed)
      | error failure =>
          rcases Program.traces_request.mp removed with ⟨_, _, rfl, reported⟩
          exact congrArg _ (ih reported)

theorem ofTrace_of_addLookups {addresses : List Address} {result : Unit}
    (traces : (addLookups addresses).Traces trace result) : ofTrace trace = [] := by
  induction addresses generalizing trace with
  | nil =>
      rcases Program.traces_pure.mp traces with ⟨rfl, _⟩
      rfl
  | cons address rest ih =>
      rcases Program.traces_ask.mp traces with ⟨lost, later, rfl, asked⟩
      change ofTrace later = []
      cases lost with
      | false => exact ih asked
      | true =>
          rcases Program.traces_request.mp asked with ⟨_, _, rfl, reported⟩
          rw [ofTrace_report]
          exact ih reported

/-- After the swaps are stored they are announced, unless there are none. -/
theorem ofTrace_of_finish {item : WorkItem} {started : Nat}
    (traces : (worker.finish tag item started).Traces trace outcome) :
    ofTrace trace = .settled tag .acknowledged ::
        (if (item.swaps worker.registry).isEmpty then []
          else [.broadcast (item.swaps worker.registry)]) ∧
      outcome = .acknowledged := by
  rcases Program.traces_bind.mp traces with ⟨_, _, _, rfl, settles, rest⟩
  rcases ofTrace_of_settle settles with ⟨settled, rfl⟩
  rw [ofTrace_append, settled]
  cases empty : (item.swaps worker.registry).isEmpty with
  | true =>
      simp only [empty, Bool.true_eq_false, if_false] at rest
      rcases Program.traces_request.mp rest with ⟨_, _, rfl, timed⟩
      rcases Program.traces_request.mp timed with ⟨_, _, rfl, reported⟩
      rcases Program.traces_pure.mp reported with ⟨rfl, rfl⟩
      exact ⟨rfl, rfl⟩
  | false =>
      simp only [empty, if_true] at rest
      rcases Program.traces_ask.mp rest with ⟨_, _, rfl, announced⟩
      rcases Program.traces_request.mp announced with ⟨_, _, rfl, timed⟩
      rcases Program.traces_request.mp timed with ⟨_, _, rfl, reported⟩
      rcases Program.traces_pure.mp reported with ⟨rfl, rfl⟩
      exact ⟨rfl, rfl⟩

theorem stores_of_insert {swaps : List SwapRecord} {outcome : Option (Except Failure Unit)}
    (traces : (worker.insert swaps).unlessStopped.Traces trace outcome) :
    Stores worker.insertRetry swaps (ofTrace trace) (decide (outcome = some (.ok ()))) := by
  have attempted (trace : List (AnsweredRequest Services)) (outcome : Option (Except Failure Unit))
      (traces : (Services.store (.insertSwaps swaps)).unlessStopped.Traces trace outcome) :
      ofTrace trace = [.inserted swaps outcome] := by
    rw [Program.traces_request_unlessStopped.mp traces]
    cases outcome with
    | none | some => rfl
  rw [insert, Program.unlessStopped_bind] at traces
  rcases Program.traces_bind.mp traces with ⟨_, first, _, rfl, tries, rest⟩
  have stores := Stores.of_attempts (.of_traces attempted tries)
  rcases first with _ | failure | ⟨⟩
  · rcases Program.traces_pure.mp rest with ⟨rfl, rfl⟩
    simpa using stores
  · rcases Program.traces_pure.mp rest with ⟨rfl, rfl⟩
    simpa [Except.mapError] using stores
  · rcases Program.traces_pure.mp rest with ⟨rfl, rfl⟩
    simpa [Except.mapError] using stores

theorem settles_of_storeSwaps {item : WorkItem} {started : Nat}
    (readable : WorkItem.ofPayload? delivery.payload = some item)
    (traces : (worker.storeSwaps delivery.tag item started).Traces trace settlement) :
    worker.Settles delivery (ofTrace trace) settlement := by
  have found : worker.swaps? delivery = some (item.swaps worker.registry) := by
    rw [swaps?, readable]
    rfl
  rw [storeSwaps] at traces
  rcases Program.traces_bind.mp traces with ⟨_, _, _, rfl, logged, rest⟩
  rcases Program.traces_bind.mp rest with ⟨_, _, _, rfl, asked, rest⟩
  rw [ofTrace_append, ofTrace_of_reportAll logged, ofTrace_append, ofTrace_of_addLookups asked]
  cases swaps : item.swaps worker.registry with
  | nil =>
      simp only [swaps, List.isEmpty_nil, if_true] at rest
      rcases ofTrace_of_finish rest with ⟨finished, rfl⟩
      rw [finished, swaps]
      exact .idle (found.trans (congrArg some swaps))
  | cons first others =>
      have some_ne : item.swaps worker.registry ≠ [] := swaps ▸ List.cons_ne_nil _ _
      simp only [swaps, List.isEmpty_cons, Bool.false_eq_true, if_false] at rest
      rw [← swaps] at rest
      rcases Program.traces_bind.mp rest with ⟨_, stored, _, rfl, inserts, rest⟩
      have stores := stores_of_insert inserts
      rw [ofTrace_append]
      rcases stored with _ | failure | ⟨⟩
      · rcases ofTrace_of_settle rest with ⟨settled, rfl⟩
        rw [settled]
        exact .unstored some_ne found stores
      · rcases Program.traces_request.mp rest with ⟨_, _, rfl, reported⟩
        rcases ofTrace_of_settle reported with ⟨settled, rfl⟩
        rw [ofTrace_report, settled]
        exact .unstored some_ne found (by simpa using stores)
      · rcases ofTrace_of_finish rest with ⟨finished, rfl⟩
        have some_swaps : (item.swaps worker.registry).isEmpty = false := by
          rw [swaps, List.isEmpty_cons]
        rw [finished, some_swaps]
        exact .stored some_ne found (by simpa using stores)

/-- However a worker is answered, it handles a delivery. -/
theorem handles_of_handle (traces : (worker.handle delivery).Traces trace settlement) :
    worker.Handles delivery (ofTrace trace) settlement := by
  rw [handle] at traces
  cases readable : WorkItem.ofPayload? delivery.payload with
  | none =>
      simp only [readable] at traces
      rcases Program.traces_request.mp traces with ⟨_, _, rfl, reported⟩
      rcases ofTrace_of_settle reported with ⟨settled, rfl⟩
      refine ⟨[.settled delivery.tag .rejected], ?_, .unreadable readable⟩
      rw [removals, readable, ofTrace_report, settled]
      rfl
  | some item =>
      simp only [readable] at traces
      rw [handleItem_eq] at traces
      rcases Program.traces_request.mp traces with ⟨started, _, rfl, timed⟩
      rw [Handles, removals, readable, ofTrace_clock]
      by_cases redelivered : delivery.redelivered = true
      · simp only [redelivered, if_true] at timed
        rcases Program.traces_bind.mp timed with ⟨_, _, _, rfl, cleared, rest⟩
        rw [ofTrace_append, ofTrace_of_clear cleared]
        exact ⟨_, by simp only [redelivered, if_true], settles_of_storeSwaps readable rest⟩
      · simp only [redelivered, Bool.false_eq_true, if_false] at timed
        exact ⟨_, by simp only [redelivered, Bool.false_eq_true, if_false, List.nil_append],
          settles_of_storeSwaps readable timed⟩

/-- What others see of one turn of a worker, and whether the worker goes on. -/
inductive Turns (worker : Worker) : List WorkerEvent → (goesOn : Bool) → Prop where
  | handled {delivery : Delivery} {events : List WorkerEvent} {settlement : Settlement}
      (handles : worker.Handles delivery events settlement) :
      Turns worker (.took delivery :: events) true
  | nothing (goesOn : Bool) : Turns worker [] goesOn
  | stopped : Turns worker [.stopped] false

theorem turns_of_reconnect {reason : String} {goesOn : Bool}
    (traces : (worker.reconnect reason).Traces trace goesOn) :
    worker.Turns (ofTrace trace) goesOn := by
  have attempted (trace : List (AnsweredRequest Services)) (outcome : Option (Except Failure Unit))
      (traces : (Services.queue .reconnect).unlessStopped.Traces trace outcome) :
      ofTrace trace = if outcome.isNone then [.stopped] else [] := by
    rw [Program.traces_request_unlessStopped.mp traces]
    cases outcome with
    | none | some => rfl
  rcases Program.traces_request.mp traces with ⟨_, _, rfl, reported⟩
  rcases Program.traces_call.mp reported with ⟨_, _, rfl, locked⟩
  rcases Program.traces_bind.mp locked with ⟨tried, outcome, _, rfl, tries, rest⟩
  rcases Program.traces_call.mp rest with ⟨_, last, rfl, unlocked⟩
  have round := (Attempts.of_traces attempted tries).quiet
  change worker.Turns (ofTrace (tried ++ _)) goesOn
  rw [ofTrace_append, round]
  change worker.Turns (_ ++ ofTrace last) goesOn
  rcases outcome with _ | failure | ⟨⟩
  · rcases Program.traces_pure.mp unlocked with ⟨rfl, rfl⟩
    exact .stopped
  · rcases Program.traces_request.mp unlocked with ⟨_, _, rfl, ended⟩
    rcases Program.traces_pure.mp ended with ⟨rfl, rfl⟩
    exact .nothing false
  · rcases Program.traces_pure.mp unlocked with ⟨rfl, rfl⟩
    exact .nothing true

theorem turns_of_step {goesOn : Bool} (traces : worker.step.Traces trace goesOn) :
    worker.Turns (ofTrace trace) goesOn := by
  have pausing {entry : LogEntry} {trace : List (AnsweredRequest Services)} {goesOn : Bool}
      (traces : (do
        Program.report entry
        return (← (Program.pause consumePauseMs).unlessStopped).isSome
          : Program Services Bool).Traces trace goesOn) : worker.Turns (ofTrace trace) goesOn := by
    rcases Program.traces_request.mp traces with ⟨_, _, rfl, reported⟩
    rw [ofTrace_report]
    rcases Program.traces_bind.mp reported with ⟨_, passed, _, rfl, paused, rest⟩
    rcases Program.traces_pure.mp rest with ⟨rfl, rfl⟩
    rw [List.append_nil, Program.traces_request_unlessStopped.mp paused]
    cases passed with
    | none => exact .stopped
    | some => exact .nothing true
  rw [step] at traces
  rcases Program.traces_request.mp traces with ⟨told, _, rfl, asked⟩
  cases told with
  | true =>
      rcases Program.traces_pure.mp asked with ⟨rfl, rfl⟩
      exact .stopped
  | false =>
      rcases Program.traces_call.mp asked with ⟨answer, later, rfl, consumed⟩
      rcases answer with failure | _ | delivery
      · change worker.Turns (ofTrace later) goesOn
        cases failure with
        | queueClosed reason => exact turns_of_reconnect consumed
        | _ => exact pausing consumed
      · rcases Program.traces_pure.mp consumed with ⟨rfl, rfl⟩
        exact .nothing true
      · rcases Program.traces_bind.mp consumed with ⟨handling, settlement, _, rfl, handles, rest⟩
        rcases Program.traces_pure.mp rest with ⟨rfl, rfl⟩
        rw [List.append_nil]
        exact .handled (handles_of_handle handles)

theorem turns_of_turn {started : Bool} {next : Option Job}
    (traces : (worker.turn started).Traces trace next) :
    worker.Turns (ofTrace trace) next.isSome := by
  have stepping {trace : List (AnsweredRequest Services)} {next : Option Job}
      (traces : (do
        if ← worker.step then return some (Job.worker worker.id true)
        else
          .report (worker.entry .debug "Worker stopped" [])
          Services.shared (.leave worker.id)
          return none).Traces trace next) : worker.Turns (ofTrace trace) next.isSome := by
    rcases Program.traces_bind.mp traces with ⟨_, goesOn, _, rfl, steps, rest⟩
    have turns := turns_of_step steps
    rw [ofTrace_append]
    cases goesOn with
    | true =>
        rcases Program.traces_pure.mp rest with ⟨rfl, rfl⟩
        simpa using turns
    | false =>
        rcases Program.traces_request.mp rest with ⟨_, _, rfl, reported⟩
        rcases Program.traces_call.mp reported with ⟨_, _, rfl, left⟩
        rcases Program.traces_pure.mp left with ⟨rfl, rfl⟩
        change worker.Turns (_ ++ []) false
        rwa [List.append_nil]
  rw [turn] at traces
  cases started with
  | true => exact stepping traces
  | false =>
      rcases Program.traces_request.mp traces with ⟨_, _, rfl, reported⟩
      rw [ofTrace_report]
      exact stepping reported

/-- Deliveries and what was done with each of them, one after another. -/
def inTurn (handlings : List (Delivery × List WorkerEvent)) : List WorkerEvent :=
  handlings.flatMap fun (delivery, events) => .took delivery :: events

/-- Until its end a worker handles whatever it takes; if it is told to stop while it has nothing in
hand, that is the last that is seen of it. -/
theorem exists_handlings {started : Bool} (life : worker.LivesThrough started trace) :
    ∃ handlings told, ofTrace trace = inTurn handlings ++ told ∧ (told = [] ∨ told = [.stopped]) ∧
      ∀ handling ∈ handlings, ∃ settlement, worker.Handles handling.1 handling.2 settlement := by
  induction life with
  | ends turn =>
      have turns := turns_of_turn turn
      generalize ofTrace _ = events at turns
      cases turns with
      | nothing => exact ⟨[], [], rfl, .inl rfl, nofun⟩
      | stopped => exact ⟨[], [.stopped], rfl, .inr rfl, nofun⟩
  | goesOn turn _ ih =>
      rcases ih with ⟨handlings, told, later, ended, handled⟩
      rw [ofTrace_append, later]
      have turns := turns_of_turn turn
      generalize ofTrace _ = events at turns
      cases turns with
      | @handled delivery events settlement handles =>
          refine ⟨(delivery, events) :: handlings, told, ?_, ended, ?_⟩
          · simp [inTurn]
          · exact List.forall_mem_cons.mpr ⟨⟨settlement, handles⟩, handled⟩
      | nothing => exact ⟨handlings, told, rfl, ended, handled⟩

/-- Whatever is asked for, there is an answer. -/
theorem nonempty_answer (request : Request Services) : Nonempty request.Answer := by
  induction request with
  | report | pause => exact ⟨()⟩
  | clock | draw => exact ⟨(0 : Nat)⟩
  | stopRequested => exact ⟨false⟩
  | unlessStopped => exact ⟨none⟩
  | call call =>
      rcases call with call | call | ⟨_, call⟩ | call | call
      · cases call <;> exact ⟨.error (.queueClosed "gone")⟩
      · cases call <;> first | exact ⟨()⟩ | exact ⟨.error (.queueClosed "gone")⟩
      · cases call <;> exact ⟨.error (.rpc "gone")⟩
      · cases call <;> first | exact ⟨.ended⟩ | exact ⟨.error "gone"⟩
      · cases call <;> first
          | exact ⟨()⟩ | exact ⟨(0 : Nat)⟩ | exact ⟨(0 : UInt16)⟩ | exact ⟨false⟩ | exact ⟨none⟩
          | exact ⟨.ended⟩ | exact ⟨default⟩

/-- So every program can be answered. -/
theorem exists_traces {Result : Type} (program : Program Services Result) :
    ∃ trace result, program.Traces trace result :=
  ⟨_, _, Program.traces_transcript (fun _ request => (nonempty_answer request).some) program 0⟩

/-- However a worker is answered it settles a delivery, and it does so once, whenever it is told to
stop: it acknowledges the delivery if there are no swaps or the store was seen to keep all of them,
and throws it away if it cannot be read. It gives it back if the attempts to store the swaps were
used up, one of them failed for a reason that will not pass, or the worker was told to stop before
one was seen to succeed. A worker that ends has so settled all that it took. -/
theorem deliveries_settled_once (worker : Worker) :
    (∀ (delivery : Delivery) (answers : Nat → (request : Request Services) → request.Answer),
      (worker.handle delivery).Traces ((worker.handle delivery).transcript answers 0).1
        ((worker.handle delivery).transcript answers 0).2) ∧
    (∀ (delivery : Delivery) (trace : List (AnsweredRequest Services)) (settlement : Settlement),
      (worker.handle delivery).Traces trace settlement →
      worker.Handles delivery (ofTrace trace) settlement) ∧
    ∀ (started : Bool) (trace : List (AnsweredRequest Services)),
      worker.LivesThrough started trace →
      ∃ handlings told, ofTrace trace = inTurn handlings ++ told ∧
        (told = [] ∨ told = [.stopped]) ∧
        ∀ handling ∈ handlings, ∃ settlement, worker.Handles handling.1 handling.2 settlement :=
  ⟨fun _ answers => Program.traces_transcript answers _ 0, fun _ _ _ => handles_of_handle,
    fun _ _ => exists_handlings⟩

/-- However else it is answered, a worker that has not seen its swaps stored gives the delivery
back. -/
theorem exists_traces_of_insert {item : WorkItem} {outcome : Option (Except Failure Unit)}
    (readable : WorkItem.ofPayload? delivery.payload = some item)
    (swaps_ne : item.swaps worker.registry ≠ [])
    (inserts : (worker.insert (item.swaps worker.registry)).unlessStopped.Traces trace outcome)
    (missed : outcome ≠ some (.ok ())) :
    ∃ whole, (worker.handle delivery).Traces whole .requeued ∧
      ofTrace whole =
        removals delivery ++ (ofTrace trace ++ [.settled delivery.tag .requeued]) := by
  have some_swaps : (item.swaps worker.registry).isEmpty = false := by
    rwa [List.isEmpty_eq_false_iff]
  have settles : (worker.settle delivery.tag .requeued).Traces
      [⟨.call (.queue (.reject delivery.tag true)), (.ok () : Except Failure Unit)⟩] .requeued :=
    .ask _ (.done _)
  rcases exists_traces (.reportAll (item.detectionLog worker.registry)) with ⟨logged, ⟨⟩, logs⟩
  rcases exists_traces (addLookups ((item.swaps worker.registry).flatMap (·.lookups))) with
    ⟨asked, ⟨⟩, asks⟩
  have goesOn {next : Option (Except Failure Unit) → Program Services Settlement}
      {last : List (AnsweredRequest Services)} (gives : (next outcome).Traces last .requeued) :
      (do
        Program.reportAll (item.detectionLog worker.registry)
        addLookups ((item.swaps worker.registry).flatMap SwapRecord.lookups)
        next (← (worker.insert (item.swaps worker.registry)).unlessStopped)
          : Program Services Settlement).Traces (logged ++ (asked ++ (trace ++ last)))
            .requeued := by
    refine Program.traces_bind.mpr ⟨logged, (), _, rfl, logs, ?_⟩
    refine Program.traces_bind.mpr ⟨asked, (), _, rfl, asks, ?_⟩
    exact Program.traces_bind.mpr ⟨trace, outcome, last, rfl, inserts, gives⟩
  have givesBack : ∃ last, (worker.storeSwaps delivery.tag item 0).Traces
      (logged ++ (asked ++ (trace ++ last))) .requeued ∧
        ofTrace last = [.settled delivery.tag .requeued] := by
    rw [storeSwaps]
    simp only [some_swaps, Bool.false_eq_true, if_false]
    rcases outcome with _ | failure | ⟨⟩
    · exact ⟨_, goesOn settles, rfl⟩
    · exact ⟨_, goesOn (Program.traces_request.mpr ⟨(), _, rfl, settles⟩), rfl⟩
    · exact absurd rfl missed
  rcases givesBack with ⟨last, stores, gave⟩
  have seen : ofTrace (logged ++ (asked ++ (trace ++ last))) =
      ofTrace trace ++ [.settled delivery.tag .requeued] := by
    rw [ofTrace_append, ofTrace_append, ofTrace_append, ofTrace_of_reportAll logs,
      ofTrace_of_addLookups asks, gave]
    rfl
  rw [handle, readable, removals, readable]
  simp only [handleItem_eq]
  by_cases redelivered : delivery.redelivered = true
  · rcases exists_traces (worker.clear item.signatures) with ⟨cleared, ⟨⟩, clears⟩
    simp only [redelivered, if_true]
    refine ⟨_, Program.traces_request.mpr ⟨(0 : Nat), _, rfl,
      Program.traces_bind.mpr ⟨cleared, (), _, rfl, clears, stores⟩⟩, ?_⟩
    rw [ofTrace_clock, ofTrace_append, ofTrace_of_clear clears, seen]
  · simp only [redelivered, Bool.false_eq_true, if_false]
    refine ⟨_, Program.traces_request.mpr ⟨(0 : Nat), _, rfl, stores⟩, ?_⟩
    rw [ofTrace_clock, seen]
    rfl

/-- A life in which a worker handles one delivery in some way and is told to stop after that. -/
theorem exists_livesThrough (handles : (worker.handle delivery).Traces trace settlement) :
    ∃ whole, worker.LivesThrough false whole ∧
      ofTrace whole = .took delivery :: (ofTrace trace ++ [.stopped]) := by
  have steps : worker.step.Traces
      (⟨.stopRequested, false⟩ :: ⟨.call (.queue .consume), .ok (some delivery)⟩ :: trace)
      true := by
    refine Program.traces_request.mpr ⟨false, _, rfl, ?_⟩
    refine Program.traces_call.mpr ⟨.ok (some delivery), _, rfl, ?_⟩
    exact Program.traces_bind.mpr
      ⟨trace, settlement, [], (List.append_nil _).symm, handles, .done true⟩
  have takes : (worker.turn false).Traces
      (⟨.report (worker.entry .debug "Worker started" []), ()⟩ :: ⟨.stopRequested, false⟩ ::
        ⟨.call (.queue .consume), .ok (some delivery)⟩ :: trace)
      (some (.worker worker.id true)) := by
    refine Program.traces_request.mpr ⟨(), _, rfl, ?_⟩
    exact Program.traces_bind.mpr ⟨_, true, [], (List.append_nil _).symm, steps, .done _⟩
  have leaves : (worker.turn true).Traces
      [⟨.stopRequested, true⟩, ⟨.report (worker.entry .debug "Worker stopped" []), ()⟩,
        ⟨.call (.shared (.leave worker.id)), ()⟩] none :=
    .ask _ (.ask _ (.ask _ (.done none)))
  refine ⟨_, .goesOn takes (.ends leaves), ?_⟩
  change .took delivery :: ofTrace (trace ++ _) = _
  rw [ofTrace_append]
  rfl

/-- An attempt to store swaps that fails. -/
def failedInsert (swaps : List SwapRecord) (failure : Failure) : AnsweredRequest Services :=
  ⟨.unlessStopped (.call (.store (.insertSwaps swaps))), some (.error failure)⟩

theorem traces_failedInsert (swaps : List SwapRecord) (failure : Failure) :
    (Services.store (.insertSwaps swaps)).unlessStopped.Traces [failedInsert swaps failure]
      (some (.error failure)) :=
  Program.traces_request_unlessStopped.mpr rfl

/-- The first attempt fails for a reason that will not pass. -/
theorem traces_insert_refused (swaps : List SwapRecord) :
    (standard.insert swaps).unlessStopped.Traces [failedInsert swaps (.decoding "swap")]
      (some (.error (insertFailure (.decoding "swap")))) := by
  rw [insert, Program.unlessStopped_bind, RetryPolicy.retrying, RetryPolicy.retryingFrom.eq_def,
    Program.unlessStopped_bind]
  have refused := traces_failedInsert swaps (.decoding "swap")
  refine Program.traces_bind.mpr
    ⟨_, some (.error (.decoding "swap")), [], (List.append_nil _).symm, ?_, .done _⟩
  exact Program.traces_bind.mpr ⟨_, _, [], (List.append_nil _).symm, refused, .done _⟩

/-- The worker is told to stop before the second attempt. -/
theorem traces_insert_stopped (swaps : List SwapRecord) :
    (standard.insert swaps).unlessStopped.Traces
      [failedInsert swaps (.database .lost), ⟨.unlessStopped .draw, none⟩] none := by
  rw [insert, Program.unlessStopped_bind, RetryPolicy.retrying, RetryPolicy.retryingFrom.eq_def,
    Program.unlessStopped_bind]
  refine Program.traces_bind.mpr ⟨_, none, [], (List.append_nil _).symm, ?_, .done _⟩
  refine Program.traces_bind.mpr ⟨_, _, _, rfl, traces_failedInsert swaps _, ?_⟩
  exact Program.traces_unlessStopped.mpr (.inl ⟨rfl, rfl⟩)

/-- A delivery that comes again and is given back, since the store refuses its swaps, or since the
worker is told to stop after an attempt that failed. Nothing else is in the hand of a worker that
ends after that. -/
theorem routedItem_given_back :
    let delivery : Delivery := ⟨7, Shift.routedItem.toPayload, true⟩
    let swaps := Shift.routedItem.swaps standard.registry
    let cleared : WorkerEvent := .cleared Transaction.routedTrades.signature
    swaps ≠ [] ∧
      (∃ trace, (standard.handle delivery).Traces trace .requeued ∧
        ofTrace trace = [cleared, .inserted swaps (some (.error (.decoding "swap"))),
          .settled 7 .requeued] ∧
        standard.Handles delivery (ofTrace trace) .requeued) ∧
      ∃ trace whole, (standard.handle delivery).Traces trace .requeued ∧
        ofTrace trace = [cleared, .inserted swaps (some (.error (.database .lost))), .stopped,
          .settled 7 .requeued] ∧
        standard.Handles delivery (ofTrace trace) .requeued ∧
        standard.LivesThrough false whole ∧
        ofTrace whole = .took delivery :: (ofTrace trace ++ [.stopped]) ∧
        ∃ handlings told, ofTrace whole = inTurn handlings ++ told ∧
          (told = [] ∨ told = [.stopped]) ∧
          ∀ handling ∈ handlings,
            ∃ settlement, standard.Handles handling.1 handling.2 settlement := by
  intro delivery swaps cleared
  have readable : WorkItem.ofPayload? delivery.payload = some Shift.routedItem :=
    Shift.ofPayload?_routedItem
  have removed : removals delivery = [cleared] := by
    rw [removals, readable]
    rfl
  have settled := deliveries_settled_once standard
  have swaps_ne : swaps ≠ [] := Shift.swaps_routedItem_ne
  have given_back {outcome : Option (Except Failure Unit)} {trace : List (AnsweredRequest Services)}
      (inserts : (standard.insert swaps).unlessStopped.Traces trace outcome)
      (missed : outcome ≠ some (.ok ())) :=
    exists_traces_of_insert readable swaps_ne inserts missed
  refine ⟨swaps_ne, ?_, ?_⟩
  · rcases given_back (traces_insert_refused swaps) nofun with ⟨trace, traces, events⟩
    refine ⟨trace, traces, ?_, settled.2.1 delivery trace .requeued traces⟩
    rw [events, removed]
    rfl
  · rcases given_back (traces_insert_stopped swaps) nofun with ⟨trace, traces, events⟩
    rcases exists_livesThrough traces with ⟨whole, life, seen⟩
    refine ⟨trace, whole, traces, ?_, settled.2.1 delivery trace .requeued traces, life, seen,
      settled.2.2 false whole life⟩
    rw [events, removed]
    rfl

end Worker

end SwapLedger
