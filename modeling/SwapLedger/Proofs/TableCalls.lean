import SwapLedger.Proofs.Discipline
import SwapLedger.TableQueue

/-!
# What the calls of a table queue say to the database

Every call of a queue in the database executes one statement at most, except that creating the
tables takes two; and what it answers is what the statement gave. This holds whatever is answered in
between, and wherever a call is given up.
-/

namespace SwapLedger

/-- A statement that was executed, and its outcome as far as it is known. -/
structure Execution where
  statement : Statement
  outcome : Option (Except DatabaseFailure statement.Answer)

namespace Execution

/-- What a call is to the database. -/
def of? : AnsweredCall Wire → Option Execution
  | ⟨.database (.execute statement), outcome⟩ => some ⟨statement, outcome⟩
  | _ => none

/-- Only the execution of a statement matters to the database. -/
theorem of?_of_unlike {call : WireCall} {answer : Option call.Answer}
    (unlike : ∀ statement, call ≠ .database (.execute statement)) : of? ⟨call, answer⟩ = none := by
  unfold of?
  split
  · rename_i same
    cases same
    exact absurd rfl (unlike _)
  · rfl

end Execution

namespace TableQueue

variable (queue : TableQueue)

/-- The statement that claims a row for this queue. -/
def claimStatement : Statement :=
  .claim queue.settings.name queue.settings.visibilityTimeoutSecs

/-- The statements of a call, in order. -/
def statements : QueueCall → List Statement
  | .createTables => [.createWork, .createWorkIndex]
  | .publish item => [.publish queue.settings.name item.toPayload]
  | .consume => [queue.claimStatement]
  | .acknowledge tag => [.remove (Statement.integer tag)]
  | .reject tag true => [.release (Statement.integer tag)]
  | .reject tag false => [.remove (Statement.integer tag)]
  | .depth => [.depth queue.settings.name]
  | .setPrefetch _ => []
  | .reconnect => [.ping]

/-- How a call executes its statements: one after the other, as far as it gets. -/
def executes (call : QueueCall) : Discipline Wire Execution (List Execution) :=
  ⟨Execution.of?, fun executed execution next =>
    next = executed ++ [execution] ∧ next.map (·.statement) <+: queue.statements call⟩

/-- What a call that succeeds has executed. -/
def Reports : (call : QueueCall) → call.Answer → List Execution → Prop
  | .publish item, .ok (), executed =>
    executed = [⟨.publish queue.settings.name item.toPayload, some (.ok ())⟩]
  | .consume, .ok (some delivery), executed =>
    ∃ row, executed = [⟨queue.claimStatement, some (.ok (some row))⟩] ∧
      delivery = TableQueue.delivery row
  | .acknowledge tag, .ok (), executed =>
    executed = [⟨.remove (Statement.integer tag), some (.ok ())⟩]
  | .reject tag true, .ok (), executed =>
    executed = [⟨.release (Statement.integer tag), some (.ok ())⟩]
  | .reject tag false, .ok (), executed =>
    executed = [⟨.remove (Statement.integer tag), some (.ok ())⟩]
  | .depth, .ok depth, executed =>
    ∃ rows, executed = [⟨.depth queue.settings.name, some (.ok rows)⟩] ∧ depth = .ofNat rows
  | _, _, _ => True

variable {queue} {call : QueueCall} {executed : List Execution} {statement : Statement}

/-- A statement that is next in the list may be executed, and its outcome is known. -/
theorem keeps_query
    {ends : Except DatabaseFailure statement.Answer → List Execution → Prop}
    (next : executed.map (·.statement) ++ [statement] <+: queue.statements call)
    (unsent : ∀ failure, ends (.error failure) executed)
    (sent : ∀ outcome, ends outcome (executed ++ [⟨statement, some outcome⟩])) :
    (SwapStore.query statement).Keeps (queue.executes call) ends executed := by
  apply (Program.silent_call fun _ => rfl).keeps_bind
  rintro (failure | ⟨⟩)
  · exact Program.keeps_pure (unsent failure)
  · apply Program.Keeps.bind
    intro outcome
    refine ⟨_, ⟨rfl, by simpa using next⟩, ?_⟩
    exact (Program.silent_call fun _ => rfl).keeps_bind fun _ => Program.keeps_pure (sent outcome)

/-- A statement that is next in the list may be executed, unless it is given up, and nothing is
known of it then. -/
theorem keeps_unlessStopped_query
    {ends : Option (Except DatabaseFailure statement.Answer) → List Execution → Prop}
    (next : executed.map (·.statement) ++ [statement] <+: queue.statements call)
    (stopped : ∀ executed, ends none executed)
    (unsent : ∀ failure, ends (some (.error failure)) executed)
    (sent : ∀ outcome, ends (some outcome) (executed ++ [⟨statement, some outcome⟩])) :
    (SwapStore.query statement).unlessStopped.Keeps (queue.executes call) ends executed := by
  apply (Program.silent_call fun _ => rfl).keeps_unlessStopped_bind (stopped executed)
  rintro (failure | ⟨⟩)
  · exact Program.keeps_unlessStopped_pure (unsent failure)
  · rw [Program.unlessStopped_bind]
    apply Program.Keeps.bind
    rw [SwapStore.execute, Wire.database, Program.unlessStopped]
    rintro (_ | outcome)
    · exact ⟨_, ⟨rfl, by simpa using next⟩, Program.keeps_pure (stopped _)⟩
    · refine ⟨_, ⟨rfl, by simpa using next⟩, ?_⟩
      apply (Program.silent_call fun _ => rfl).keeps_unlessStopped_bind (stopped _)
      exact fun _ => Program.keeps_unlessStopped_pure (sent outcome)

/-- A statement that settles a delivery is the only one of its call. -/
theorem keeps_settle {ends : Except Failure Unit → List Execution → Prop}
    (next : queue.statements call = [statement])
    (failed : ∀ failure executed, ends (.error failure) executed)
    (settled : ∀ answer, ends (.ok ()) [⟨statement, some (.ok answer)⟩]) :
    (queue.settle statement).Keeps (queue.executes call) ends [] := by
  apply Program.Keeps.bind
  apply keeps_query
  · rw [next]
    exact List.prefix_rfl
  · intro failure
    exact (Program.silent_call fun _ => rfl).keeps_bind fun _ => Program.keeps_pure (failed _ _)
  · intro outcome
    refine (Program.silent_call fun _ => rfl).keeps_bind fun _ => ?_
    cases outcome with
    | ok answer => exact Program.keeps_pure (settled answer)
    | error failure => exact Program.keeps_pure (failed _ _)

/-- To consume executes no more than one claim, and a delivery is the row that this claim has
answered. -/
theorem keeps_consume :
    queue.consume.Keeps (queue.executes .consume) (queue.Reports .consume) [] := by
  have cancel (after : Program Wire (Except Failure (Option Delivery)))
      (executed : List Execution)
      (keeps : after.Keeps (queue.executes .consume) (queue.Reports .consume) executed) :
      (Wire.credits (.cancel queue.number) >>= fun _ => after).Keeps (queue.executes .consume)
        (queue.Reports .consume) executed :=
    (Program.silent_call fun _ => rfl).keeps_bind fun _ => keeps
  have resting (executed : List Execution) :
      queue.rest.Keeps (queue.executes .consume) (queue.Reports .consume) executed := by
    exact (Program.silent_request rfl).unlessStopped.keeps_bind fun _ => Program.keeps_pure trivial
  rw [consume]
  refine (Program.silent_call fun _ => rfl).keeps_bind fun reserved => ?_
  cases reserved with
  | false => exact resting []
  | true =>
      apply Program.Keeps.bind
      apply keeps_unlessStopped_query
      · exact List.prefix_rfl
      · intro executed
        exact cancel _ _ (Program.keeps_pure trivial)
      · intro failure
        exact cancel _ _ (Program.keeps_pure trivial)
      · rintro (failure | _ | row)
        · exact cancel _ _ (Program.keeps_pure trivial)
        · exact cancel _ _ (resting _)
        · exact Program.keeps_pure ⟨row, rfl, rfl⟩

/-- Every call keeps to its statements, and answers what they gave. -/
theorem keeps_serve (queue : TableQueue) (call : QueueCall) :
    (queue.serve call).Keeps (queue.executes call) (queue.Reports call) [] := by
  cases call with
  | createTables =>
      have ended (outcome : Except DatabaseFailure Unit) (executed : List Execution) :
          (pure (outcome.mapError Failure.database) : Program Wire (Except Failure Unit)).Keeps
            (queue.executes .createTables) (queue.Reports .createTables) executed :=
        Program.keeps_pure trivial
      apply Program.Keeps.bind
      apply Program.Keeps.bind
      refine keeps_query ⟨_, rfl⟩ (fun failure => ended _ _) ?_
      rintro (failure | answer)
      · exact ended _ _
      · apply Program.Keeps.bind
        refine keeps_query ⟨_, rfl⟩ (fun failure => ended _ _) ?_
        rintro (failure | answer)
        · exact ended _ _
        · exact ended _ _
  | publish item =>
      apply Program.Keeps.bind
      refine keeps_query ⟨_, rfl⟩ (fun failure => Program.keeps_pure trivial) ?_
      rintro (failure | answer)
      · exact Program.keeps_pure trivial
      · exact Program.keeps_pure rfl
  | consume => exact keeps_consume
  | acknowledge tag => exact keeps_settle rfl (fun _ _ => trivial) fun _ => rfl
  | reject tag requeue =>
      rw [serve, reject]
      cases requeue with
      | true => exact keeps_settle rfl (fun _ _ => trivial) fun _ => rfl
      | false =>
          apply Program.Keeps.bind
          refine keeps_settle rfl (fun _ _ => Program.keeps_pure trivial) fun answer => ?_
          exact (Program.silent_request rfl).keeps_bind fun _ => Program.keeps_pure rfl
  | depth =>
      apply Program.Keeps.bind
      refine keeps_query ⟨_, rfl⟩ (fun failure => Program.keeps_pure trivial) ?_
      rintro (failure | rows)
      · exact Program.keeps_pure trivial
      · exact Program.keeps_pure ⟨rows, rfl, rfl⟩
  | setPrefetch limit =>
      exact (Program.silent_call fun _ => rfl).keeps_bind fun _ => Program.keeps_pure trivial
  | reconnect =>
      apply Program.Keeps.bind
      exact keeps_query ⟨_, rfl⟩ (fun _ => Program.keeps_pure trivial)
        fun _ => Program.keeps_pure trivial

end TableQueue

end SwapLedger
