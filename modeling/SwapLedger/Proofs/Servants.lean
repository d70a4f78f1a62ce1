import SwapLedger.Proofs.Discipline
import SwapLedger.Shared

/-!
# Programs that are answered by a world

A world answers calls, and is changed by them. What a program can do to a world until it comes to
its result is found by going along the text of the program: `Completes` of a sequence is `Completes`
of its parts. What it is sure to do, whatever the answers are, is found in the same way: `Ensures`
says what holds after every call and at the end.
-/

namespace SwapLedger

/-- How a world answers calls, and what becomes of it. -/
abbrev Servant (interface : Interface) (World : Type) :=
  World → AnsweredCall interface → World → Prop

/-- What a request does to a world. -/
def Servant.Answers {interface : Interface} {World : Type} (servant : Servant interface World)
    (world : World) (seen : Option (AnsweredCall interface)) (next : World) : Prop :=
  match seen with
  | none => next = world
  | some answered => servant world answered next

/-- Whether a world answers calls one after the other, and what it is like then. -/
inductive Servant.Leads {interface : Interface} {World : Type} (servant : Servant interface World) :
    World → List (AnsweredCall interface) → World → Prop where
  | nothing (world : World) : Leads servant world [] world
  | next {world next last : World} {answered : AnsweredCall interface}
      {later : List (AnsweredCall interface)} (first : servant world answered next)
      (rest : Leads servant next later last) : Leads servant world (answered :: later) last

/-- Calls can be answered one after the other. -/
theorem Servant.Leads.append {interface : Interface} {World : Type}
    {servant : Servant interface World} {world middle last : World}
    {calls later : List (AnsweredCall interface)} (leads : servant.Leads world calls middle)
    (rest : servant.Leads middle later last) : servant.Leads world (calls ++ later) last := by
  induction leads with
  | nothing => exact rest
  | next first _ ih => exact .next first (ih rest)

/-- How calls are answered from what the parts of an instance share. Everything else is answered
somehow, and what is given up while it waits has no effect. -/
inductive Shared.Serves : Servant Services Shared where
  | answered {shared next : Shared} {call : SharedCall} {answer : call.Answer} (moment : Moment)
      (served : shared.serve moment call = .answered answer next) :
      Serves shared ⟨.shared call, some answer⟩ next
  | givenUp {shared : Shared} {call : SharedCall} : Serves shared ⟨.shared call, none⟩ shared
  | elsewhere {shared : Shared} {call : ServiceCall} {answer : Option call.Answer}
      (outside : ∀ other, call ≠ .shared other) : Serves shared ⟨call, answer⟩ shared

namespace Program

variable {interface : Interface} {World Result Other : Type}
  (servant : Servant interface World) {world last : World}

/-- Whether a program can come to a result, and what the world is like then. -/
def Completes : Program interface Result → World → Result → World → Prop
  | .done result, world, outcome, last => outcome = result ∧ last = world
  | .ask request resume, world, outcome, last =>
    ∃ answer middle, servant.Answers world (request.answeredCall? answer) middle ∧
      (resume answer).Completes middle outcome last

variable {servant}

@[simp]
theorem completes_pure {result outcome : Result} :
    (pure result : Program interface Result).Completes servant world outcome last ↔
      outcome = result ∧ last = world := Iff.rfl

/-- A sequence completes just if its parts do, one after the other. -/
theorem completes_bind {program : Program interface Result}
    {next : Result → Program interface Other} {outcome : Other} :
    (program >>= next).Completes servant world outcome last ↔
      ∃ result middle, program.Completes servant world result middle ∧
        (next result).Completes servant middle outcome last := by
  induction program generalizing world with
  | done result =>
      constructor
      · intro completes
        exact ⟨_, _, ⟨rfl, rfl⟩, completes⟩
      · rintro ⟨_, _, ⟨rfl, rfl⟩, completes⟩
        exact completes
  | ask request resume ih =>
      change (∃ answer middle, _ ∧
        (resume answer >>= next).Completes servant middle outcome last) ↔ _
      simp only [ih]
      constructor
      · rintro ⟨answer, first, answers, result, middle, completes, later⟩
        exact ⟨result, middle, ⟨answer, first, answers, completes⟩, later⟩
      · rintro ⟨result, middle, ⟨answer, first, answers, completes⟩, later⟩
        exact ⟨answer, first, answers, result, middle, completes, later⟩

/-- What completes can complete as well when it may be given up. -/
theorem Completes.unlessStopped {program : Program interface Result} {outcome : Result}
    (completes : program.Completes servant world outcome last) :
    program.unlessStopped.Completes servant world (some outcome) last := by
  induction program generalizing world with
  | done result =>
      rcases completes with ⟨rfl, rfl⟩
      exact ⟨rfl, rfl⟩
  | ask request resume ih =>
      rcases completes with ⟨answer, middle, answers, later⟩
      rw [Program.unlessStopped]
      exact ⟨some answer, middle, answers, ih answer later⟩

/-- A request completes with an answer that the servant gives. -/
theorem completes_request {request : Request interface} {answer : request.Answer} :
    (Program.request request).Completes servant world answer last ↔
      servant.Answers world (request.answeredCall? answer) last := by
  simp [Program.request, Completes]

theorem completes_reportAll {entries : List LogEntry} :
    (reportAll entries : Program interface Unit).Completes servant world () world := by
  induction entries with
  | nil => exact ⟨rfl, rfl⟩
  | cons entry rest ih => exact ⟨(), world, rfl, ih⟩

/-- A program that can come to a result does so in some run. -/
theorem Completes.reaches {program : Program interface Result} {outcome : Result}
    (completes : program.Completes servant world outcome last) :
    ∃ calls, program.Reaches calls (.done outcome) ∧ servant.Leads world calls last := by
  induction program generalizing world with
  | done result =>
      rcases completes with ⟨rfl, rfl⟩
      exact ⟨[], .here _, .nothing _⟩
  | ask request resume ih =>
      rcases completes with ⟨answer, middle, answers, later⟩
      rcases ih answer later with ⟨calls, reaches, leads⟩
      refine ⟨_, .ask answer reaches, ?_⟩
      cases seen : request.answeredCall? answer with
      | none =>
          rw [seen] at answers
          cases answers
          exact leads
      | some answered =>
          rw [seen] at answers
          exact .next answers leads

variable (servant) in
/-- Whether a program has a run with some calls that comes to a result, and what the world is like
then. -/
structure HasRun (program : Program interface Result) (world : World)
    (calls : List (AnsweredCall interface)) (result : Result) (last : World) : Prop where
  reaches : program.Reaches calls (.done result)
  leads : servant.Leads world calls last

variable {middle : World} {calls later : List (AnsweredCall interface)} {result : Result}

theorem hasRun_pure :
    (pure result : Program interface Result).HasRun servant world [] result world :=
  ⟨.here _, .nothing _⟩

/-- Runs of the parts make a run of a sequence. -/
theorem HasRun.bind {program : Program interface Result} {next : Result → Program interface Other}
    {outcome : Other} (first : program.HasRun servant world calls result middle)
    (rest : (next result).HasRun servant middle later outcome last) :
    (program >>= next).HasRun servant world (calls ++ later) outcome last := by
  rcases first with ⟨reaches, leads⟩
  refine ⟨?_, leads.append rest.leads⟩
  clear leads
  generalize ended : (Program.done result : Program interface Result) = left at reaches
  induction reaches with
  | here program =>
      cases ended
      exact rest.reaches
  | ask answer _ ih =>
      rw [List.append_assoc]
      exact .ask answer (ih ended)

/-- A call runs with each answer that the servant gives. -/
theorem hasRun_call {call : interface.Call} {answer : interface.Answer call}
    (served : servant world ⟨call, some answer⟩ last) :
    (Program.call call).HasRun servant world [⟨call, some answer⟩] answer last :=
  ⟨@Reaches.ask _ _ (.call call) _ _ _ answer (.here _), .next served (.nothing _)⟩

theorem hasRun_reportAll {entries : List LogEntry} :
    (reportAll entries >>= fun _ => pure result : Program interface Result).HasRun servant world []
      result world := by
  induction entries with
  | nil => exact hasRun_pure
  | cons entry rest ih => exact ⟨.ask () ih.reaches, ih.leads⟩

/-- What has a run has the same one when it may be given up. -/
theorem HasRun.unlessStopped {program : Program interface Result}
    (run : program.HasRun servant world calls result last) :
    program.unlessStopped.HasRun servant world calls (some result) last := by
  rcases run with ⟨reaches, leads⟩
  refine ⟨?_, leads⟩
  clear leads
  generalize ended : (Program.done result : Program interface Result) = left at reaches
  induction reaches with
  | here program =>
      cases ended
      exact .here _
  | @ask request _ _ _ answer _ ih =>
      rw [Program.unlessStopped]
      refine @Reaches.ask _ _ (.unlessStopped request) _ _ _ (some answer) ?_
      exact ih ended

/-- An attempt that succeeds at once is not repeated. -/
theorem HasRun.retrying {attempt : Program interface (Except Failure Result)}
    {policy : RetryPolicy} {operation : String}
    (run : attempt.HasRun servant world calls (.ok result) last) :
    (policy.retrying operation attempt).HasRun servant world calls (.ok result) last := by
  rw [RetryPolicy.retrying, RetryPolicy.retryingFrom.eq_def, ← List.append_nil calls]
  exact run.bind hasRun_pure

/-- What completes has a run that tells of its calls. -/
theorem Completes.hasRun {program : Program interface Result}
    (completes : program.Completes servant world result last) :
    ∃ calls, program.HasRun servant world calls result last := by
  rcases completes.reaches with ⟨calls, reaches, leads⟩
  exact ⟨calls, reaches, leads⟩

variable (servant) in
/-- Whether something holds of the world after everything that a program asks, and something else
holds in the end. -/
def Ensures (always : World → Prop) (ends : Result → World → Prop) :
    Program interface Result → World → Prop
  | .done result, world => ends result world
  | .ask request resume, world =>
    ∀ answer next, servant.Answers world (request.answeredCall? answer) next →
      always next ∧ (resume answer).Ensures always ends next

variable {always : World → Prop}

theorem ensures_pure {ends : Result → World → Prop} {result : Result} (ended : ends result world) :
    (pure result : Program interface Result).Ensures servant always ends world := ended

/-- What a sequence ensures is found by what its second part ensures from where the first one ends.
-/
theorem Ensures.bind {ends : Other → World → Prop} {program : Program interface Result}
    {next : Result → Program interface Other}
    (ensures : program.Ensures servant always
      (fun result => (next result).Ensures servant always ends) world) :
    (program >>= next).Ensures servant always ends world := by
  induction program generalizing world with
  | done result => exact ensures
  | ask request resume ih =>
      intro answer middle answers
      rcases ensures answer middle answers with ⟨holds, later⟩
      exact ⟨holds, ih answer later⟩

/-- What is ensured can be weakened. -/
theorem Ensures.mono {ends weaker : Result → World → Prop} {program : Program interface Result}
    (ensures : program.Ensures servant always ends world)
    (implied : ∀ result world, ends result world → weaker result world) :
    program.Ensures servant always weaker world := by
  induction program generalizing world with
  | done result => exact implied result world ensures
  | ask request resume ih =>
      intro answer middle answers
      rcases ensures answer middle answers with ⟨holds, later⟩
      exact ⟨holds, ih answer later⟩

/-- Nothing that is no call changes the world. -/
theorem ensures_request {ends : Other → World → Prop} {request : Request interface}
    {next : request.Answer → Program interface Other} (callsNothing : request.call? = none)
    (holds : always world) (later : ∀ answer, (next answer).Ensures servant always ends world) :
    (Program.request request >>= next).Ensures servant always ends world := by
  intro answer middle answers
  have unseen : request.answeredCall? answer = none := by
    cases seen : request.answeredCall? answer with
    | none => rfl
    | some answered =>
        rw [Request.call?_of_answeredCall? seen] at callsNothing
        cases callsNothing
  rw [unseen] at answers
  cases answers
  exact ⟨holds, later answer⟩

/-- Entries of the log change nothing that has to be ensured. -/
theorem ensures_reportAll {ends : Result → World → Prop} {entries : List LogEntry}
    {program : Program interface Result} (holds : always world)
    (later : program.Ensures servant always ends world) :
    (reportAll entries >>= fun _ => program).Ensures servant always ends world := by
  induction entries with
  | nil => exact later
  | cons entry rest ih =>
      rintro _ _ rfl
      exact ⟨holds, ih⟩

variable (servant) in
/-- Whether something holds of the world after everything that a program asks, and something else
holds in the end, of the world and of the calls that were made. -/
def Recounts (always : World → Prop)
    (ends : Result → World → List (AnsweredCall interface) → Prop) :
    Program interface Result → World → Prop
  | .done result, world => ends result world []
  | .ask request resume, world =>
    ∀ answer next, servant.Answers world (request.answeredCall? answer) next →
      always next ∧ (resume answer).Recounts always
        (fun result last calls =>
          ends result last ((request.answeredCall? answer).toList ++ calls)) next

theorem recounts_pure {ends : Result → World → List (AnsweredCall interface) → Prop}
    {result : Result} (ended : ends result world []) :
    (pure result : Program interface Result).Recounts servant always ends world := ended

/-- What a sequence recounts is found by what its second part recounts from where the first one
ends, with the calls of both. -/
theorem Recounts.bind {ends : Other → World → List (AnsweredCall interface) → Prop}
    {program : Program interface Result} {next : Result → Program interface Other}
    (recounts : program.Recounts servant always (fun result middle calls =>
      (next result).Recounts servant always
        (fun outcome last later => ends outcome last (calls ++ later)) middle) world) :
    (program >>= next).Recounts servant always ends world := by
  induction program generalizing world ends with
  | done result => exact recounts
  | ask request resume ih =>
      intro answer middle answers
      rcases recounts answer middle answers with ⟨holds, later⟩
      refine ⟨holds, ih answer ?_⟩
      simpa only [List.append_assoc] using later

/-- What is recounted can be weakened. -/
theorem Recounts.mono {ends weaker : Result → World → List (AnsweredCall interface) → Prop}
    {program : Program interface Result}
    (recounts : program.Recounts servant always ends world)
    (implied : ∀ result world calls, ends result world calls → weaker result world calls) :
    program.Recounts servant always weaker world := by
  induction program generalizing world ends weaker with
  | done result => exact implied result world [] recounts
  | ask request resume ih =>
      intro answer middle answers
      rcases recounts answer middle answers with ⟨holds, later⟩
      exact ⟨holds, ih answer later fun result last calls => implied result last _⟩

theorem recounts_reportAll {ends : Result → World → List (AnsweredCall interface) → Prop}
    {entries : List LogEntry} {program : Program interface Result} (holds : always world)
    (later : program.Recounts servant always ends world) :
    (reportAll entries >>= fun _ => program).Recounts servant always ends world := by
  induction entries with
  | nil => exact later
  | cons entry rest ih =>
      rintro _ _ rfl
      exact ⟨holds, ih⟩

/-- A failure is the end; otherwise the program goes on. -/
theorem Recounts.onSuccess {Error : Type}
    {ends : Except Error Other → World → List (AnsweredCall interface) → Prop}
    {program : Program interface (Except Error Result)}
    {next : Result → Program interface (Except Error Other)}
    (recounts : program.Recounts servant always (fun outcome middle calls =>
      match outcome with
      | .error failure => ends (.error failure) middle calls
      | .ok result => (next result).Recounts servant always
        (fun outcome last later => ends outcome last (calls ++ later)) middle) world) :
    (program.onSuccess next).Recounts servant always ends world := by
  refine Recounts.bind (recounts.mono ?_)
  rintro (failure | result) middle calls ended
  · refine recounts_pure ?_
    rwa [List.append_nil]
  · exact ended

/-- What a program recounts holds of each of its runs, wherever it stops. -/
theorem Recounts.reaches {ends : Result → World → List (AnsweredCall interface) → Prop}
    {program rest : Program interface Result} {calls : List (AnsweredCall interface)}
    (reaches : program.Reaches calls rest) (leads : servant.Leads world calls last)
    (holds : always world) (recounts : program.Recounts servant always ends world) :
    always last ∧ ∀ result, rest = .done result → ends result last calls := by
  induction reaches generalizing world ends with
  | here program =>
      cases leads
      refine ⟨holds, ?_⟩
      rintro result rfl
      exact recounts
  | @ask request resume calls rest answer later ih =>
      cases seen : request.answeredCall? answer with
      | none =>
          rw [seen] at leads
          rcases recounts answer world (by rw [seen]; rfl) with ⟨holds, recounts⟩
          simpa only [seen] using ih leads holds recounts
      | some answered =>
          rw [seen] at leads
          cases leads with
          | @next _ middle _ _ _ first rest =>
              rcases recounts answer middle (by rw [seen]; exact first) with ⟨holds, recounts⟩
              simpa only [seen] using ih rest holds recounts

end Program

end SwapLedger
