import SwapLedger.Proofs.CallLimits
import SwapLedger.Proofs.UndisturbedRuns
import SwapLedger.TableQueue

/-!
# How workers end

A worker that is not told to stop goes on through whatever it learns of the queue, round by round:
it ends only if the connection was gone and could not be restored. This takes all the attempts that
the policy allows, unless one of them fails for a reason that counts as permanent. Of the failures
of a queue in the database there is just one such, that of waiting in vain for a connection; so a
worker gives up at once when the others keep all connections busy.
-/

namespace SwapLedger

/-- What a worker learns of the queue. -/
inductive QueueNews where
  | consumed (outcome : Except Failure (Option Delivery))
  | reconnected (outcome : Except Failure Unit)

namespace QueueNews

def of? : AnsweredCall Services → Option QueueNews
  | ⟨.queue .consume, some outcome⟩ => some (.consumed outcome)
  | ⟨.queue .reconnect, some outcome⟩ => some (.reconnected outcome)
  | _ => none

/-- The discipline that minds nothing but the news. -/
def discipline : Discipline Services QueueNews Unit := ⟨of?, fun _ _ _ => True⟩

def ofTrace (trace : List (AnsweredRequest Services)) : List QueueNews :=
  trace.filterMap (AnsweredRequest.event? of?)

end QueueNews

namespace Program

/-- The result of a program is what is made of it in the end. -/
theorem exists_of_reaches_map {interface : Interface} {Result Other : Type} {f : Result → Other}
    {program : Program interface Result} {calls : List (AnsweredCall interface)} {outcome : Other}
    (reaches : (program >>= fun result => pure (f result)).Reaches calls (.done outcome)) :
    ∃ result, outcome = f result := by
  induction program generalizing calls with
  | done result =>
      cases reaches
      exact ⟨result, rfl⟩
  | ask request resume ih =>
      cases reaches with
      | ask answer later => exact ih answer later

end Program

namespace Worker

variable (worker : Worker)

/-- What a worker learns in one round, and whether it goes on. -/
inductive Round : List QueueNews → Bool → Prop where
  | consumed {outcome : Except Failure (Option Delivery)}
      (connected : ∀ reason, outcome ≠ .error (.queueClosed reason)) :
      Round [.consumed outcome] true
  | restored {reason : String} {outcomes : List (Except Failure Unit)}
      (concludes : RetryPolicy.Concludes worker.reconnectRetry.maxRetries.toNat 1 outcomes
        (.ok ())) :
      Round (.consumed (.error (.queueClosed reason)) :: outcomes.map .reconnected) true
  | lost {reason : String} {outcomes : List (Except Failure Unit)} {failure : Failure}
      (concludes : RetryPolicy.Concludes worker.reconnectRetry.maxRetries.toNat 1 outcomes
        (.error failure)) :
      Round (.consumed (.error (.queueClosed reason)) :: outcomes.map .reconnected) false

/-- The requests and answers of a worker over all of its turns, up to its end. -/
inductive LivesThrough : (started : Bool) → List (AnsweredRequest Services) → Prop where
  | ends {started : Bool} {trace : List (AnsweredRequest Services)}
      (turn : (worker.turn started).Traces trace none) : LivesThrough started trace
  | goesOn {started : Bool} {trace later : List (AnsweredRequest Services)}
      (turn : (worker.turn started).Traces trace (some (.worker worker.id true)))
      (rest : LivesThrough true later) : LivesThrough started (trace ++ later)

variable {worker}

theorem silent_handle_news (delivery : Delivery) :
    (worker.handle delivery).Silent QueueNews.discipline := by
  apply (handle_dealing delivery).of_except
  intro call answer made
  rcases call with call | call | ⟨client, call⟩ | call | call
  case queue => cases call <;> first | rfl | cases made
  all_goals rfl

theorem undisturbed_reconnect (reason : String) :
    (worker.reconnect reason).Undisturbed QueueNews.of? fun goesOn news =>
      worker.Round (.consumed (.error (.queueClosed reason)) :: news) goesOn := by
  have attempt : (Services.queue .reconnect).Undisturbed QueueNews.of? fun outcome news =>
      news = [.reconnected outcome] := fun _ _ => rfl
  have locking (call : SharedCall) :
      (Services.shared call).Silent QueueNews.discipline := Program.silent_call fun _ => rfl
  rw [reconnect]
  refine Program.undisturbed_request rfl fun _ _ => ?_
  refine (locking _).undisturbed_bind fun _ => .bind (.unlessStopped ?_)
  refine (RetryPolicy.undisturbed_retryingFrom attempt _ _).mono ?_
  rintro (failure | ⟨⟩) _ ⟨outcomes, concludes, rfl⟩
  · refine (locking _).undisturbed_bind fun _ => ?_
    refine Program.undisturbed_request rfl fun _ _ => Program.undisturbed_pure ?_
    simpa using Round.lost concludes
  · refine (locking _).undisturbed_bind fun _ => Program.undisturbed_pure ?_
    simpa using Round.restored concludes

theorem undisturbed_step : worker.step.Undisturbed QueueNews.of? fun goesOn news =>
    worker.Round news goesOn := by
  rw [step]
  refine Program.undisturbed_request rfl fun stopped untold => ?_
  cases stopped with
  | true => exact absurd rfl untold
  | false =>
      apply Program.Undisturbed.bind
      intro outcome _
      have waiting (failure : Failure) (connected : ∀ reason, failure ≠ .queueClosed reason) :
          (do
            Program.report (worker.entry .warn "Consume failed" [("error", .shown failure.message)])
            return (← (Program.pause consumePauseMs).unlessStopped).isSome).Undisturbed
              QueueNews.of? fun goesOn news =>
                worker.Round (QueueNews.consumed (.error failure) :: news) goesOn := by
        refine Program.undisturbed_request rfl fun _ _ => ?_
        refine .bind (.unlessStopped ?_)
        intro _ _
        exact Round.consumed fun reason same => connected reason (Except.error.inj same)
      rcases outcome with failure | _ | delivery
      · cases failure with
        | queueClosed reason => exact undisturbed_reconnect reason
        | _ => exact waiting _ (by simp)
      · exact Round.consumed nofun
      · refine (silent_handle_news delivery).undisturbed_bind fun _ => ?_
        exact Round.consumed nofun

theorem undisturbed_turn (started : Bool) :
    (worker.turn started).Undisturbed QueueNews.of? fun (next : Option Job) news =>
      worker.Round news next.isSome := by
  have turning : (do
      if ← worker.step then return some (Job.worker worker.id true)
      else
        .report (worker.entry .debug "Worker stopped" [])
        Services.shared (.leave worker.id)
        return none).Undisturbed QueueNews.of? fun (next : Option Job) news =>
          worker.Round news next.isSome := by
    refine .bind (undisturbed_step.mono ?_)
    rintro (_ | _) news round
    · refine Program.undisturbed_request rfl fun _ _ => ?_
      have leaving : (Services.shared (.leave worker.id)).Silent QueueNews.discipline :=
        Program.silent_call fun _ => rfl
      refine leaving.undisturbed_bind fun _ => Program.undisturbed_pure ?_
      simpa using round
    · exact Program.undisturbed_pure (by simpa using round)
  rw [turn]
  cases started with
  | true => exact turning
  | false => exact Program.undisturbed_request rfl fun _ _ => turning

/-- A worker that ends without being told so has gone through rounds that let it go on, and then
through one that did not. -/
theorem rounds_of_livesThrough {started : Bool} {trace : List (AnsweredRequest Services)}
    (life : worker.LivesThrough started trace) (untold : ∀ answered ∈ trace, ¬ answered.Stops) :
    ∃ (earlier : List (List QueueNews)) (last : List QueueNews),
      QueueNews.ofTrace trace = earlier.flatten ++ last ∧
      (∀ round ∈ earlier, worker.Round round true) ∧ worker.Round last false := by
  induction life with
  | ends turn =>
      exact ⟨[], _, rfl, nofun, (undisturbed_turn _).of_traces turn untold⟩
  | @goesOn _ trace later turn _ ih =>
      rw [List.forall_mem_append] at untold
      rcases ih untold.2 with ⟨earlier, last, news, goesOn, ended⟩
      refine ⟨QueueNews.ofTrace trace :: earlier, last, ?_, ?_, ended⟩
      · rw [List.flatten_cons, List.append_assoc, ← news]
        exact List.filterMap_append
      · exact List.forall_mem_cons.mpr ⟨(undisturbed_turn _).of_traces turn untold.1, goesOn⟩

end Worker

namespace TableQueue

/-- Whether an attempt to have a queue in the database again can fail in some way. -/
def FailsWith (reported : Failure) : Prop :=
  ∃ (queue : TableQueue) (calls : List (AnsweredCall Wire)),
    (queue.serve .reconnect).Reaches calls (.done (.error reported))

theorem exists_failure_of_failsWith {reported : Failure} (fails : FailsWith reported) :
    ∃ problem, reported = failure problem := by
  rcases fails with ⟨queue, calls, reaches⟩
  rcases Program.exists_of_reaches_map reaches with ⟨outcome, same⟩
  cases outcome with
  | ok answer => cases same
  | error problem => exact ⟨problem, Except.error.inj same⟩

theorem failsWith_timedOut : FailsWith (failure .timedOut) :=
  ⟨⟨0, .standard⟩, _, @Program.Reaches.ask Wire _ (.call (.database .acquire)) _ [] _
    (Except.error .timedOut) (.here _)⟩

/-- Of the failures of the database, just that of waiting in vain for a connection counts as one
that will not pass. -/
theorem isTransient_failure {problem : DatabaseFailure} :
    (failure problem).isTransient = false ↔ problem = .timedOut := by
  cases problem <;> simp [failure, Failure.isTransient]

end TableQueue

namespace Worker

variable {worker : Worker}

/-- A worker ends only if it is told to stop, or if the connection to the queue was gone and an
attempt to restore it has been refused or all attempts have been used up. Up to then it has gone on
through everything else that it learnt of the queue. A queue in the database refuses an attempt
only if no connection could be had in time. -/
theorem told_or_unrestored {started : Bool} {trace : List (AnsweredRequest Services)}
    (life : worker.LivesThrough started trace) :
    (∃ answered ∈ trace, answered.Stops) ∨
      ∃ (earlier : List (List QueueNews)) (reason : String) (failures : List Failure),
        QueueNews.ofTrace trace = earlier.flatten ++ .consumed (.error (.queueClosed reason)) ::
          failures.map (fun failure => .reconnected (.error failure)) ∧
        (∀ round ∈ earlier, worker.Round round true) ∧
        (worker.reconnectRetry.Exhausted failures ∨
          ∃ last, worker.reconnectRetry.Refused failures last ∧
            (TableQueue.FailsWith last → last = TableQueue.failure .timedOut)) := by
  by_cases told : ∃ answered ∈ trace, answered.Stops
  · exact .inl told
  · right
    simp only [not_exists, not_and] at told
    rcases rounds_of_livesThrough life told with ⟨earlier, last, news, goesOn, ended⟩
    cases ended with
    | @lost reason outcomes failure concludes =>
        rcases RetryPolicy.exhausted_or_refused concludes with ⟨failures, rfl, why⟩
        rw [List.map_map] at news
        refine ⟨earlier, reason, failures, news, goesOn, why.imp_right ?_⟩
        rintro ⟨last, refused⟩
        refine ⟨last, refused, fun fails => ?_⟩
        rcases TableQueue.exists_failure_of_failsWith fails with ⟨problem, rfl⟩
        rw [TableQueue.isTransient_failure.mp refused.1]

def standard : Worker := ⟨0, .standard, .insert, .reconnect⟩

/-- What a worker goes through that loses the queue while the others keep all connections busy. -/
def busyPool : List (AnsweredRequest Services) :=
  let refused := TableQueue.failure .timedOut
  [⟨.stopRequested, false⟩, ⟨.call (.queue .consume), .error (.queueClosed "gone")⟩,
    ⟨.report (standard.entry .warn "Queue connection closed, reconnecting"
      [("reason", .quoted "gone")]), ()⟩,
    ⟨.call (.shared .lockReconnect), ()⟩,
    ⟨.unlessStopped (.call (.queue .reconnect)), some (.error refused)⟩,
    ⟨.call (.shared .unlockReconnect), ()⟩,
    ⟨.report (.failure "Worker 0 giving up" refused.message), ()⟩,
    ⟨.report (standard.entry .debug "Worker stopped" []), ()⟩, ⟨.call (.shared (.leave 0)), ()⟩]

theorem livesThrough_busyPool : standard.LivesThrough true busyPool := by
  apply LivesThrough.ends
  have often : standard.reconnectRetry.maxRetries.toNat = 4 := rfl
  refine .ask _ (.ask _ (.ask _ (.ask _ ?_)))
  rw [RetryPolicy.retrying, often, RetryPolicy.retryingFrom, Program.unlessStopped_bind,
    Services.queue, Program.unlessStopped]
  repeat apply Program.Traces.ask
  exact .done none

theorem undisturbed_busyPool : ∀ answered ∈ busyPool, ¬ answered.Stops := by
  simp [busyPool, AnsweredRequest.Stops, Request.Stops]

theorem ofTrace_busyPool : QueueNews.ofTrace busyPool =
    [.consumed (.error (.queueClosed "gone")),
      .reconnected (.error (TableQueue.failure .timedOut))] := rfl

theorem unrestored_busyPool :
    standard.LivesThrough true busyPool ∧
      ∃ failures last, standard.reconnectRetry.Refused failures last := by
  refine ⟨livesThrough_busyPool, ?_⟩
  rcases told_or_unrestored livesThrough_busyPool with
    ⟨answered, member, told⟩ | ⟨earlier, reason, failures, news, -, ⟨full, -⟩ | ⟨last, refused, -⟩⟩
  · exact absurd told (undisturbed_busyPool answered member)
  · have attempts : standard.reconnectRetry.maxAttempts = 5 := rfl
    have few := congrArg List.length news
    simp only [ofTrace_busyPool, List.length_append, List.length_cons, List.length_nil,
      List.length_map, full, attempts] at few
    omega
  · exact ⟨failures, last, refused⟩

/-- A worker may end though it has not been told to stop and has tried to restore the connection no
more than once, even if every failure is one of a queue in the database. -/
theorem not_only_exhausted :
    ¬ ∀ (worker : Worker) (started : Bool) (trace : List (AnsweredRequest Services)),
      worker.LivesThrough started trace →
      (∀ failure, .reconnected (.error failure) ∈ QueueNews.ofTrace trace →
        TableQueue.FailsWith failure) →
      (∃ answered ∈ trace, answered.Stops) ∨
        ∃ (earlier : List QueueNews) (failures : List Failure),
          QueueNews.ofTrace trace =
            earlier ++ failures.map (fun failure => .reconnected (.error failure)) ∧
          worker.reconnectRetry.Exhausted failures := by
  intro only
  have reported : ∀ failure, .reconnected (.error failure) ∈ QueueNews.ofTrace busyPool →
      TableQueue.FailsWith failure := by
    intro failure member
    rw [ofTrace_busyPool] at member
    simp only [List.mem_cons, List.not_mem_nil, or_false] at member
    rcases member with impossible | same
    · cases impossible
    · cases same
      exact TableQueue.failsWith_timedOut
  rcases only standard true busyPool livesThrough_busyPool reported with
    ⟨answered, member, told⟩ | ⟨earlier, failures, news, full, -⟩
  · exact undisturbed_busyPool answered member told
  · have attempts : standard.reconnectRetry.maxAttempts = 5 := rfl
    have few := congrArg List.length news
    simp only [ofTrace_busyPool, List.length_append, List.length_cons, List.length_nil,
      List.length_map, full, attempts] at few
    omega

end Worker

end SwapLedger
