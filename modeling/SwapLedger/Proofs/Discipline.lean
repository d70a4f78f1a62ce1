import SwapLedger.RetryPolicy.Retrying

/-!
# Programs under a discipline

What can be seen of a run of a program are its calls and how they were answered; a run may stop
after any of them. A discipline says which calls matter, and in which order these may be made. That
a program keeps a discipline is said along its tree, so it is shown along the text of the program;
then all its runs keep it, whatever the answers are and wherever they stop.
-/

namespace SwapLedger

/-- A call and its answer. A call that was given up has none. -/
structure AnsweredCall (interface : Interface) where
  call : interface.Call
  answer : Option (interface.Answer call)

namespace Request

variable {interface : Interface}

/-- What is called by a request. -/
def call? : Request interface → Option interface.Call
  | .call asked => some asked
  | .unlessStopped request => request.call?
  | _ => none

/-- What is seen of a request and its answer. -/
def answeredCall? : (request : Request interface) → request.Answer → Option (AnsweredCall interface)
  | .call asked, answer => some ⟨asked, some answer⟩
  | .unlessStopped request, some answer => request.answeredCall? answer
  | .unlessStopped request, none => request.call?.map (⟨·, none⟩)
  | .report _, _ | .clock, _ | .pause _, _ | .stopRequested, _ | .draw, _ => none

/-- A call that has been answered is the call that was requested. -/
theorem call?_of_answeredCall? {request : Request interface} {answer : request.Answer}
    {answered : AnsweredCall interface} (seen : request.answeredCall? answer = some answered) :
    request.call? = some answered.call := by
  induction request with
  | call asked =>
      cases seen
      rfl
  | unlessStopped request ih =>
      cases answer with
      | some answer => exact ih seen
      | none =>
          rw [answeredCall?, Option.map_eq_some_iff] at seen
          rcases seen with ⟨asked, called, rfl⟩
          exact called
  | report _ | clock | pause _ | stopRequested | draw => cases seen

end Request

namespace Program

variable {interface : Interface} {Result Other : Type}

/-- The calls of a whole run, and its result. The answers may depend on how many requests have been
made before, and so on everything. -/
def run (answers : Nat → (request : Request interface) → request.Answer) :
    Program interface Result → (number : Nat) → List (AnsweredCall interface) × Result
  | .done result, _ => ([], result)
  | .ask request resume, number =>
    let answer := answers number request
    let (calls, result) := (resume answer).run answers (number + 1)
    ((request.answeredCall? answer).toList ++ calls, result)

/-- What is left of a program after some calls. -/
inductive Reaches : Program interface Result → List (AnsweredCall interface) →
    Program interface Result → Prop where
  | here (program : Program interface Result) : Reaches program [] program
  | ask {request : Request interface} {resume : request.Answer → Program interface Result}
      {calls : List (AnsweredCall interface)} {rest : Program interface Result}
      (answer : request.Answer) (later : Reaches (resume answer) calls rest) :
      Reaches (.ask request resume) ((request.answeredCall? answer).toList ++ calls) rest

/-- A run of a sequence is a run of its first part, and then one of the second. -/
theorem exists_run_bind (answers : Nat → (request : Request interface) → request.Answer)
    (program : Program interface Result) (next : Result → Program interface Other)
    (number : Nat) : ∃ later, (program >>= next).run answers number =
      ((program.run answers number).1 ++
          ((next (program.run answers number).2).run answers later).1,
        ((next (program.run answers number).2).run answers later).2) := by
  induction program generalizing number with
  | done result => exact ⟨number, rfl⟩
  | ask request resume ih =>
      rcases ih (answers number request) (number + 1) with ⟨later, run⟩
      refine ⟨later, ?_⟩
      change (_ ++ ((resume (answers number request) >>= next).run answers (number + 1)).1,
        ((resume (answers number request) >>= next).run answers (number + 1)).2) = _
      rw [run, ← List.append_assoc]
      rfl

theorem unlessStopped_bind (program : Program interface Result)
    (next : Result → Program interface Other) :
    (program >>= next).unlessStopped = program.unlessStopped >>= fun
      | none => pure none
      | some result => (next result).unlessStopped := by
  induction program with
  | done result => rfl
  | ask request resume ih =>
      simp only [bind, andThen, unlessStopped]
      congr 1
      funext answer
      cases answer with
      | none => rfl
      | some answer => exact ih answer

end Program

/-- Which calls matter, and how they lead from one stage to the next. -/
structure Discipline (interface : Interface) (Event Stage : Type) where
  event? : AnsweredCall interface → Option Event
  /-- Whether an event may happen at a stage, and lead to another. -/
  advances : Stage → Event → Stage → Prop

namespace Discipline

variable {interface : Interface} {Event Stage : Type}

/-- Whether a request leads from one stage to another. -/
def Passes (discipline : Discipline interface Event Stage) (stage : Stage)
    (seen : Option (AnsweredCall interface)) (next : Stage) : Prop :=
  match seen.bind discipline.event? with
  | none => next = stage
  | some event => discipline.advances stage event next

/-- What matters among some calls. -/
def events (discipline : Discipline interface Event Stage) (calls : List (AnsweredCall interface)) :
    List Event :=
  calls.filterMap discipline.event?

/-- Whether events lead from one stage to another. -/
inductive Leads (discipline : Discipline interface Event Stage) : Stage → List Event → Stage → Prop
  where
  | nothing (stage : Stage) : Leads discipline stage [] stage
  | next {stage next last : Stage} {event : Event} {later : List Event}
      (first : discipline.advances stage event next) (rest : Leads discipline next later last) :
      Leads discipline stage (event :: later) last

/-- A first call that passes from one stage to the next puts its event in front of a sequence of
them. -/
theorem Leads.of_passes {discipline : Discipline interface Event Stage} {stage next last : Stage}
    {seen : Option (AnsweredCall interface)} {calls : List (AnsweredCall interface)}
    (passes : discipline.Passes stage seen next)
    (leads : discipline.Leads next (discipline.events calls) last) :
    discipline.Leads stage (discipline.events (seen.toList ++ calls)) last := by
  rw [Passes] at passes
  rw [events, List.filterMap_append]
  rcases seen with _ | answered
  · cases passes
    exact leads
  · rw [Option.bind_some] at passes
    cases event : discipline.event? answered with
    | none =>
        rw [event] at passes
        cases passes
        simpa [event, events] using leads
    | some happened =>
        rw [event] at passes
        simpa [event, events] using Leads.next passes leads

/-- Events that lead to a stage may be followed by those that lead on from it. -/
theorem Leads.append {discipline : Discipline interface Event Stage} {first middle last : Stage}
    {before after : List Event} (leads : discipline.Leads first before middle)
    (rest : discipline.Leads middle after last) :
    discipline.Leads first (before ++ after) last := by
  induction leads with
  | nothing => exact rest
  | next step _ ih => exact .next step (ih rest)

end Discipline

namespace Program

variable {interface : Interface} {Event Stage Result Other : Type}
  {discipline : Discipline interface Event Stage} {stage : Stage}

variable (discipline) in
/-- Whatever the answers are, the program does what is allowed, and ends in good order. -/
def Keeps (ends : Result → Stage → Prop) : Program interface Result → Stage → Prop
  | .done result, stage => ends result stage
  | .ask request resume, stage =>
    ∀ answer, ∃ next, discipline.Passes stage (request.answeredCall? answer) next ∧
      (resume answer).Keeps ends next

theorem keeps_pure {ends : Result → Stage → Prop} {result : Result} (ended : ends result stage) :
    (pure result : Program interface Result).Keeps discipline ends stage := ended

theorem keeps_unlessStopped_pure {ends : Option Result → Stage → Prop} {result : Result}
    (ended : ends (some result) stage) :
    (pure result : Program interface Result).unlessStopped.Keeps discipline ends stage := ended

/-- A sequence of programs keeps a discipline when the first ends at stages from which the rest
keeps it. -/
theorem Keeps.bind {ends : Other → Stage → Prop} {program : Program interface Result}
    {next : Result → Program interface Other}
    (keeps : program.Keeps discipline (fun result => (next result).Keeps discipline ends) stage) :
    (program >>= next).Keeps discipline ends stage := by
  induction program generalizing stage with
  | done result => exact keeps
  | ask request resume ih =>
      intro answer
      rcases keeps answer with ⟨reached, allowed, later⟩
      exact ⟨reached, allowed, ih answer later⟩

theorem Keeps.mono {ends weaker : Result → Stage → Prop} {program : Program interface Result}
    (keeps : program.Keeps discipline ends stage)
    (implied : ∀ result stage, ends result stage → weaker result stage) :
    program.Keeps discipline weaker stage := by
  induction program generalizing stage with
  | done result => exact implied result stage keeps
  | ask request resume ih =>
      intro answer
      rcases keeps answer with ⟨reached, allowed, later⟩
      exact ⟨reached, allowed, ih answer later⟩

/-- Something is done first under a condition. -/
theorem keeps_when {ends : Result → Stage → Prop} {condition : Prop} [Decidable condition]
    {first : Program interface Unit} {next : Unit → Program interface Result}
    (before : condition → first.Keeps discipline (fun _ reached => reached = stage) stage)
    (later : (next ()).Keeps discipline ends stage) :
    (if condition then first >>= next else next ()).Keeps discipline ends stage := by
  by_cases holds : condition
  · rw [if_pos holds]
    refine .bind ((before holds).mono ?_)
    rintro _ reached rfl
    exact later
  · rw [if_neg holds]
    exact later

/-- A program of which nothing is left has ended in good order. -/
theorem Keeps.ended {ends : Stage → Prop} {program : Program interface Result}
    (keeps : program.Keeps discipline (fun _ => ends) stage)
    (finished : ¬ ∀ result, program ≠ .done result) : ends stage := by
  cases program with
  | done result => exact keeps
  | ask request resume => exact absurd (fun _ => nofun) finished

variable (discipline) in
/-- Nothing that the program calls matters. -/
def Silent : Program interface Result → Prop
  | .done _ => True
  | .ask request resume =>
    (∀ call, request.call? = some call → ∀ answer, discipline.event? ⟨call, answer⟩ = none) ∧
      ∀ answer, (resume answer).Silent

theorem silent_pure {result : Result} :
    (pure result : Program interface Result).Silent discipline :=
  trivial

theorem silent_request {request : Request interface} (callsNothing : request.call? = none) :
    (Program.request request).Silent discipline := by
  refine ⟨?_, fun _ => trivial⟩
  intro call called
  rw [callsNothing] at called
  cases called

theorem silent_call {call : interface.Call}
    (overlooked : ∀ answer, discipline.event? ⟨call, answer⟩ = none) :
    (Program.call call).Silent discipline := by
  refine ⟨?_, fun _ => trivial⟩
  rintro _ ⟨⟩
  exact overlooked

/-- A sequence of silent programs is silent. -/
theorem Silent.bind {program : Program interface Result} {next : Result → Program interface Other}
    (silent : program.Silent discipline) (later : ∀ result, (next result).Silent discipline) :
    (program >>= next).Silent discipline := by
  induction program with
  | done result => exact later result
  | ask request resume ih => exact ⟨silent.1, fun answer => ih answer (silent.2 answer)⟩

/-- Asking whether to stop is nothing that a discipline sees. -/
theorem Silent.unlessStopped {program : Program interface Result}
    (silent : program.Silent discipline) : program.unlessStopped.Silent discipline := by
  induction program with
  | done result => trivial
  | ask request resume ih =>
      rw [Program.unlessStopped]
      refine ⟨silent.1, ?_⟩
      rintro (_ | answer)
      · trivial
      · exact ih answer (silent.2 answer)

/-- A silent program keeps every discipline and stays where it is. -/
theorem Silent.keeps {ends : Result → Stage → Prop} {program : Program interface Result}
    (silent : program.Silent discipline) (ended : ∀ result, ends result stage) :
    program.Keeps discipline ends stage := by
  induction program with
  | done result => exact ended result
  | ask request resume ih =>
      intro answer
      refine ⟨stage, ?_, ih answer (silent.2 answer)⟩
      rw [Discipline.Passes]
      cases seen : request.answeredCall? answer with
      | none => rfl
      | some answered =>
          rw [Option.bind_some, silent.1 _ (Request.call?_of_answeredCall? seen)]

theorem Silent.keeps_bind {ends : Other → Stage → Prop} {program : Program interface Result}
    {next : Result → Program interface Other} (silent : program.Silent discipline)
    (later : ∀ result, (next result).Keeps discipline ends stage) :
    (program >>= next).Keeps discipline ends stage :=
  .bind (silent.keeps later)

theorem Silent.keeps_unlessStopped_bind {ends : Option Other → Stage → Prop}
    {program : Program interface Result} {next : Result → Program interface Other}
    (silent : program.Silent discipline) (stopped : ends none stage)
    (later : ∀ result, (next result).unlessStopped.Keeps discipline ends stage) :
    (program >>= next).unlessStopped.Keeps discipline ends stage := by
  rw [unlessStopped_bind]
  refine silent.unlessStopped.keeps_bind ?_
  rintro (_ | result)
  · exact stopped
  · exact later result

theorem silent_reportAll {entries : List LogEntry} :
    (reportAll entries : Program interface Unit).Silent discipline := by
  induction entries with
  | nil => trivial
  | cons entry rest ih => exact ⟨nofun, fun _ => ih⟩

/-- Attempts that are silent stay so when they are repeated: waiting and reporting in between are no
events. -/
theorem Silent.retryingFrom {program : Program interface (Except Failure Result)}
    (silent : program.Silent discipline) (policy : RetryPolicy) (operation : String)
    (retriesLeft number : Nat) :
    (policy.retryingFrom operation program retriesLeft number).Silent discipline := by
  induction retriesLeft using Nat.strongRecOn generalizing number with
  | ind retriesLeft ih =>
      rw [RetryPolicy.retryingFrom.eq_def]
      refine silent.bind fun outcome => ?_
      cases outcome with
      | ok result => exact silent_pure
      | error failure =>
          by_cases transient : failure.isTransient = false
          · simpa only [transient, if_true] using silent_pure
          · simp only [transient, Bool.true_eq_false, if_false]
            cases retriesLeft with
            | zero => exact silent_pure
            | succ retriesLeft =>
                refine (silent_request rfl).bind fun _ => (silent_request rfl).bind fun _ => ?_
                exact (silent_request rfl).bind fun _ =>
                  ih retriesLeft (Nat.lt_succ_self _) (number + 1)

/-- Nothing that matters happens in a run of a program that is silent. -/
theorem Silent.events_run {program : Program interface Result} (silent : program.Silent discipline)
    (answers : Nat → (request : Request interface) → request.Answer) (number : Nat) :
    discipline.events (program.run answers number).1 = [] := by
  induction program generalizing number with
  | done result => rfl
  | ask request resume ih =>
      have later := ih (answers number request) (silent.2 _) (number + 1)
      rw [Discipline.events] at later
      rw [run, Discipline.events, List.filterMap_append, later, List.append_nil]
      cases seen : request.answeredCall? (answers number request) with
      | none => rfl
      | some answered =>
          simp [silent.1 _ (Request.call?_of_answeredCall? seen)]

/-- Every run of a program that keeps a discipline goes from one stage to another, and what is left
of the program keeps the discipline from there on. -/
theorem Keeps.reaches {ends : Result → Stage → Prop} {program rest : Program interface Result}
    {calls : List (AnsweredCall interface)} (reaches : program.Reaches calls rest)
    (keeps : program.Keeps discipline ends stage) :
    ∃ next, discipline.Leads stage (discipline.events calls) next ∧
      rest.Keeps discipline ends next := by
  induction reaches generalizing stage with
  | here program => exact ⟨stage, .nothing stage, keeps⟩
  | ask answer later ih =>
      rcases keeps answer with ⟨reached, passes, keeps⟩
      rcases ih keeps with ⟨next, leads, keeps⟩
      exact ⟨next, .of_passes passes leads, keeps⟩

end Program

end SwapLedger
