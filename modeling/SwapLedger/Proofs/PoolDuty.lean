import SwapLedger.Job.Turn
import SwapLedger.Proofs.CallLimits
import SwapLedger.Proofs.PoolSizing

/-!
# What is done to the pool of workers

Only a few calls concern the pool: those that size it, let a worker leave it, give signals or launch
jobs. Of these, a worker makes a single one, in the end, by which it leaves the pool itself; those
who look after the pool make all the others, and never launch a worker but by sizing the pool.
-/

namespace SwapLedger

namespace PoolDuty

/-- What a call is to the pool. -/
def of? : AnsweredCall Services → Option SharedCall
  | ⟨.shared call, some _⟩ => if call.concernsPool then some call else none
  | _ => none

/-- What a worker may do, who is in the pool or gone, and what all others may do. -/
inductive Advances : Option Nat → Bool → SharedCall → Bool → Prop where
  | leave {id : Nat} : Advances (some id) false (.leave id) true
  | resize {target : Nat} : Advances none false (.resize target) false
  | signal {signal : StopSignal} (general : signal.sources ⊆ [.pool, .service]) :
      Advances none false (.giveSignal signal) false
  | launch {job : Job} (other : job.worker? = none) : Advances none false (.launch job) false

/-- The discipline of a worker, or of one who looks after the pool. -/
def discipline (worker : Option Nat) : Discipline Services SharedCall Bool :=
  ⟨of?, Advances worker⟩

/-- A worker that has no further turn is gone; nobody becomes somebody else. -/
def Ends (worker : Option Nat) (next : Option Job) (gone : Bool) : Prop :=
  match next with
  | none => gone = worker.isSome
  | some job => job.worker? = worker ∧ (job.kind = .worker ∨ job.kind = .monitor) ∧ gone = false

variable {owner : Option Nat}

theorem silent_shared {call : SharedCall} (unconcerned : call.concernsPool = false) :
    (Services.shared call).Silent (discipline owner) := by
  refine Program.silent_call fun answer => ?_
  cases answer with
  | none => rfl
  | some answer => exact if_neg (by simp [unconcerned])

/-- A call that concerns the pool. -/
theorem keeps_call {Result : Type} {ends : Result → Bool → Prop} {call : SharedCall}
    {next : call.Answer → Program Services Result} {gone gone' : Bool}
    (concerned : call.concernsPool = true) (allowed : Advances owner gone call gone')
    (later : ∀ answer, (next answer).Keeps (discipline owner) ends gone') :
    (Services.shared call >>= next).Keeps (discipline owner) ends gone := by
  apply Program.Keeps.bind
  intro answer
  refine ⟨gone', ?_, later answer⟩
  simpa [Discipline.Passes, Request.answeredCall?, discipline, of?, concerned] using allowed

variable {worker : Worker}

/-- A program does nothing to the pool if none of its calls can. -/
theorem silent_of_except {Result : Type} {only : ServiceCall → Bool}
    {program : Program Services Result} (silent : program.Silent (.except only))
    (unconcerned : ∀ call, only (.shared call) = true → call.concernsPool = false) :
    program.Silent (discipline owner) := by
  refine silent.of_except ?_
  intro call answer made
  rcases call with call | call | ⟨client, call⟩ | call | call
  case shared =>
    cases answer with
    | none => rfl
    | some answer => exact if_neg (by simp [unconcerned call made])
  all_goals rfl

theorem silent_handle (delivery : Delivery) :
    (worker.handle delivery).Silent (discipline owner) := by
  apply silent_of_except (Worker.handle_dealing delivery)
  intro call made
  cases call <;> first | rfl | cases made

theorem silent_reconnect (reason : String) :
    (worker.reconnect reason).Silent (discipline owner) := by
  apply silent_of_except (Worker.reconnect_reconnecting reason)
  intro call made
  cases call <;> first | rfl | cases made

theorem silent_step : worker.step.Silent (discipline owner) := by
  rw [Worker.step]
  refine (Program.silent_request rfl).bind fun stopped => ?_
  cases stopped with
  | true => exact Program.silent_pure
  | false =>
      refine (Program.silent_call fun _ => rfl).bind fun outcome => ?_
      have waiting (failure : Failure) : (do
          Program.report (worker.entry .warn "Consume failed" [("error", .shown failure.message)])
          return (← (Program.pause Worker.consumePauseMs).unlessStopped).isSome).Silent
            (discipline owner) := by
        refine (Program.silent_request rfl).bind fun _ => ?_
        exact (Program.silent_request rfl).unlessStopped.bind fun _ => Program.silent_pure
      rcases outcome with failure | _ | delivery
      · cases failure with
        | queueClosed reason => exact silent_reconnect reason
        | _ => exact waiting _
      · exact Program.silent_pure
      · exact (silent_handle delivery).bind fun _ => Program.silent_pure

/-- A worker leaves the pool when it ends, and does nothing else to it. -/
theorem keeps_workerTurn (started : Bool) :
    (worker.turn started).Keeps (discipline (some worker.id)) (Ends (some worker.id)) false := by
  rw [Worker.turn]
  refine Program.keeps_when (fun _ => (Program.silent_request rfl).keeps fun _ => rfl) ?_
  refine silent_step.keeps_bind fun goesOn => ?_
  cases goesOn with
  | true => exact Program.keeps_pure ⟨rfl, .inl rfl, rfl⟩
  | false =>
      refine (Program.silent_request rfl).keeps_bind fun _ => ?_
      exact keeps_call rfl .leave fun _ => Program.keeps_pure rfl

variable {table : ScalingTable}

theorem silent_setPrefetch (limit : UInt16) :
    (WorkerPool.setPrefetch limit).Silent (discipline owner) := by
  refine (Program.silent_call fun _ => rfl).bind fun outcome => ?_
  cases outcome with
  | error failure => exact Program.silent_pure
  | ok _ => exact (silent_shared rfl).bind fun _ => Program.silent_pure

theorem silent_updatePrefetch (limit : UInt16) :
    (WorkerPool.updatePrefetch limit).Silent (discipline owner) := by
  refine (silent_shared rfl).bind fun current => ?_
  split
  · exact Program.silent_pure
  · exact silent_setPrefetch limit

theorem keeps_tick : (WorkerPool.tick table).Keeps (discipline none) (fun _ gone => gone = false)
    false := by
  rw [WorkerPool.tick]
  refine (Program.silent_call fun _ => rfl).keeps_bind fun outcome => ?_
  cases outcome with
  | error failure => exact Program.keeps_pure rfl
  | ok depth =>
      refine (silent_updatePrefetch _).keeps_bind fun outcome => ?_
      cases outcome with
      | error failure => exact Program.keeps_pure rfl
      | ok _ =>
          refine keeps_call rfl .resize fun before => ?_
          exact Program.silent_reportAll.keeps_bind fun _ => Program.keeps_pure rfl

theorem keeps_monitorTurn (nextTick : Nat) :
    (WorkerPool.turn table nextTick).Keeps (discipline none) (Ends none) false := by
  rw [WorkerPool.turn]
  split
  · exact Program.keeps_pure rfl
  · have waiting : (Program.pauseUntil nextTick).Silent (discipline none) :=
      (Program.silent_request rfl).bind fun _ => Program.silent_request rfl
    refine waiting.unlessStopped.keeps_bind fun waited => ?_
    cases waited with
    | none => exact Program.keeps_pure rfl
    | some _ =>
        refine .bind (keeps_tick.mono ?_)
        rintro outcome _ rfl
        have goesOn : Ends none (some (.monitor (nextTick + table.monitorIntervalMs))) false :=
          ⟨rfl, .inr rfl, rfl⟩
        cases outcome with
        | ok _ => exact Program.keeps_pure goesOn
        | error failure => exact (Program.silent_request rfl).keeps_bind fun _ => goesOn

/-- Whoever looks after the pool in turns goes on to do so, and a worker until it is gone. -/
theorem keeps_turn (configuration : Configuration) {job : Job}
    (ofPool : job.kind = .worker ∨ job.kind = .monitor) :
    (job.turn configuration).Keeps (discipline job.worker?) (Ends job.worker?) false := by
  cases job with
  | worker id started => exact @keeps_workerTurn (configuration.worker id) started
  | monitor nextTick => exact keeps_monitorTurn nextTick
  | _ => simp [Job.kind] at ofPool

end PoolDuty

/-- What can be asked of a pool. -/
inductive PoolCommand where
  | start
  | resize (target : Nat)
  | tick
  | watch
  /-- Stops the pool. -/
  | stop
  /-- Stops the whole instance. -/
  | stopService

namespace PoolCommand

/-- How a command is carried out. -/
def program (table : ScalingTable) : PoolCommand → Program Services Unit
  | .start => do let _ ← WorkerPool.start table
  | .resize target => do let _ ← Services.shared (.resize target)
  | .tick => do let _ ← WorkerPool.tick table
  | .watch => WorkerPool.watch table
  | .stop => WorkerPool.stop
  | .stopService => Services.shared (.giveSignal .service)

theorem keeps_program (table : ScalingTable) (command : PoolCommand) :
    (command.program table).Keeps (PoolDuty.discipline none)
      (fun _ gone => gone = false) false := by
  cases command with
  | start =>
      apply Program.Keeps.bind
      rw [WorkerPool.start]
      refine (PoolDuty.silent_setPrefetch _).keeps_bind fun outcome => ?_
      cases outcome with
      | error failure => exact Program.keeps_pure rfl
      | ok _ => exact PoolDuty.keeps_call rfl .resize fun _ => Program.keeps_pure rfl
  | resize target => exact PoolDuty.keeps_call rfl .resize fun _ => Program.keeps_pure rfl
  | tick => exact .bind (PoolDuty.keeps_tick.mono fun _ _ ended => Program.keeps_pure ended)
  | watch =>
      refine (Program.silent_request rfl).keeps_bind fun now => ?_
      exact PoolDuty.keeps_call rfl (.launch rfl) fun _ => Program.keeps_pure rfl
  | stop =>
      refine PoolDuty.keeps_call rfl (.signal (by simp [StopSignal.sources])) fun _ => ?_
      refine (PoolDuty.silent_shared rfl).keeps_bind fun _ => ?_
      exact (Program.silent_request rfl).keeps fun _ => rfl
  | stopService =>
      exact PoolDuty.keeps_call rfl (.signal (by simp [StopSignal.sources])) fun _ =>
        Program.keeps_pure rfl

end PoolCommand

end SwapLedger
