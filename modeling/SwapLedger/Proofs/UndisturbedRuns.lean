import SwapLedger.Proofs.Discipline

/-!
# Runs that nobody stops

A program may be told to come to an end whenever it asks for that, or waits for something that it
gives up then. What it does as long as nobody tells it so is found along its text: `Undisturbed`
relates the result to what happened on the way. A round of attempts is related to their outcomes in
this manner.
-/

namespace SwapLedger

/-- Whether an answer tells the program to come to an end. -/
def Request.Stops {interface : Interface} : (request : Request interface) → request.Answer → Prop
  | .stopRequested, told => told = true
  | .unlessStopped _, none => True
  | .unlessStopped request, some answer => request.Stops answer
  | _, _ => False

instance Request.decidableStops {interface : Interface} :
    (request : Request interface) → (answer : request.Answer) → Decidable (request.Stops answer)
  | .stopRequested, told => inferInstanceAs (Decidable (told = true))
  | .unlessStopped _, none => .isTrue trivial
  | .unlessStopped request, some answer => decidableStops request answer
  | .report _, _ | .clock, _ | .pause _, _ | .draw, _ | .call _, _ => .isFalse id

structure AnsweredRequest (interface : Interface) where
  request : Request interface
  answer : request.Answer

namespace AnsweredRequest

variable {interface : Interface} {Event : Type}

/-- Whether the program was told to come to an end. -/
def Stops (answered : AnsweredRequest interface) : Prop := answered.request.Stops answered.answer

/-- What happened, in the eyes of those who only look at calls. -/
def event? (event? : AnsweredCall interface → Option Event) (answered : AnsweredRequest interface) :
    Option Event :=
  (answered.request.answeredCall? answered.answer).bind event?

end AnsweredRequest

namespace Program

variable {interface : Interface} {Event Result Other : Type}

/-- The requests and answers of a whole run, and its result. -/
inductive Traces : Program interface Result → List (AnsweredRequest interface) → Result → Prop where
  | done (result : Result) : Traces (.done result) [] result
  | ask {request : Request interface} {resume : request.Answer → Program interface Result}
      {trace : List (AnsweredRequest interface)} {result : Result} (answer : request.Answer)
      (later : Traces (resume answer) trace result) :
      Traces (.ask request resume) (⟨request, answer⟩ :: trace) result

variable {trace : List (AnsweredRequest interface)}

theorem traces_pure {result outcome : Result} :
    (pure result : Program interface Result).Traces trace outcome ↔
      trace = [] ∧ outcome = result := by
  constructor
  · rintro ⟨_⟩
    exact ⟨rfl, rfl⟩
  · rintro ⟨rfl, rfl⟩
    exact .done _

theorem traces_ask {request : Request interface}
    {resume : request.Answer → Program interface Result} {outcome : Result} :
    (Program.ask request resume).Traces trace outcome ↔
      ∃ answer later, trace = ⟨request, answer⟩ :: later ∧
        (resume answer).Traces later outcome := by
  constructor
  · rintro (_ | ⟨answer, later⟩)
    exact ⟨answer, _, rfl, later⟩
  · rintro ⟨answer, later, rfl, rest⟩
    exact .ask answer rest

/-- A run of a sequence is a run of its first part, and then one of the second. -/
theorem traces_bind {program : Program interface Result} {next : Result → Program interface Other}
    {outcome : Other} : (program >>= next).Traces trace outcome ↔
      ∃ before result after, trace = before ++ after ∧ program.Traces before result ∧
        (next result).Traces after outcome := by
  constructor
  · intro traces
    induction program generalizing trace with
    | done result => exact ⟨[], result, trace, rfl, .done result, traces⟩
    | ask request resume ih =>
        rcases traces_ask.mp traces with ⟨answer, later, rfl, rest⟩
        rcases ih answer rest with ⟨before, result, after, rfl, first, second⟩
        exact ⟨_ :: before, result, after, rfl, .ask answer first, second⟩
  · rintro ⟨before, result, after, rfl, first, second⟩
    induction first with
    | done => exact second
    | ask answer _ ih => exact .ask answer (ih second)

theorem traces_request {request : Request interface}
    {next : request.Answer → Program interface Other} {outcome : Other} :
    (Program.request request >>= next).Traces trace outcome ↔
      ∃ answer later, trace = ⟨request, answer⟩ :: later ∧ (next answer).Traces later outcome :=
  traces_ask

theorem traces_call {call : interface.Call} {next : interface.Answer call → Program interface Other}
    {outcome : Other} : (Program.call call >>= next).Traces trace outcome ↔
      ∃ answer later, trace = ⟨.call call, answer⟩ :: later ∧ (next answer).Traces later outcome :=
  traces_ask

/-- A request that is given up ends the program, and nothing comes after it. -/
theorem traces_unlessStopped {request : Request interface}
    {next : request.Answer → Program interface Result} {outcome : Option Result} :
    (Program.request request >>= next).unlessStopped.Traces trace outcome ↔
      (trace = [⟨.unlessStopped request, none⟩] ∧ outcome = none) ∨
        ∃ answer later, trace = ⟨.unlessStopped request, some answer⟩ :: later ∧
          (next answer).unlessStopped.Traces later outcome := by
  change (Program.ask request next).unlessStopped.Traces trace outcome ↔ _
  rw [Program.unlessStopped]
  constructor
  · intro traces
    rcases traces_ask.mp traces with ⟨_ | answer, later, rfl, rest⟩
    · rcases traces_pure.mp rest with ⟨rfl, rfl⟩
      exact .inl ⟨rfl, rfl⟩
    · exact .inr ⟨answer, later, rfl, rest⟩
  · rintro (⟨rfl, rfl⟩ | ⟨answer, later, rfl, rest⟩)
    · exact traces_ask.mpr ⟨none, [], rfl, .done none⟩
    · exact traces_ask.mpr ⟨some answer, later, rfl, rest⟩

/-- What a request that may be given up came to is its answer, or that it was given up. -/
theorem traces_request_unlessStopped {request : Request interface}
    {outcome : Option request.Answer} :
    (Program.request request).unlessStopped.Traces trace outcome ↔
      trace = [⟨.unlessStopped request, outcome⟩] := by
  constructor
  · intro traces
    rcases traces_unlessStopped.mp traces with ⟨rfl, rfl⟩ | ⟨answer, _, rfl, rest⟩
    · rfl
    · rcases traces_pure.mp rest with ⟨rfl, rfl⟩
      rfl
  · rintro rfl
    cases outcome with
    | none => exact traces_unlessStopped.mpr (.inl ⟨rfl, rfl⟩)
    | some answer => exact traces_unlessStopped.mpr (.inr ⟨answer, [], rfl, .done _⟩)

/-- Reporting makes one request for each entry, and nothing else. -/
theorem traces_reportAll {entries : List LogEntry} {result : Unit} :
    (reportAll entries : Program interface Unit).Traces trace result ↔
      trace = entries.map fun entry => ⟨.report entry, ()⟩ := by
  induction entries generalizing trace with
  | nil => exact traces_pure.trans (and_iff_left rfl)
  | cons entry rest ih =>
      rw [List.map_cons]
      constructor
      · intro traces
        rcases traces_ask.mp traces with ⟨_, later, rfl, reported⟩
        rw [ih.mp reported]
      · rintro rfl
        exact traces_ask.mpr ⟨(), _, rfl, ih.mpr rfl⟩

/-- The requests and answers of a whole run, and its result. The answers may depend on how many
requests have been made before, and so on all that went before. -/
def transcript (answers : Nat → (request : Request interface) → request.Answer) :
    Program interface Result → (number : Nat) → List (AnsweredRequest interface) × Result
  | .done result, _ => ([], result)
  | .ask request resume, number =>
    let answer := answers number request
    let (trace, result) := (resume answer).transcript answers (number + 1)
    (⟨request, answer⟩ :: trace, result)

/-- However it is answered, a program comes to a result. -/
theorem traces_transcript (answers : Nat → (request : Request interface) → request.Answer)
    (program : Program interface Result) (number : Nat) :
    program.Traces (program.transcript answers number).1 (program.transcript answers number).2 := by
  induction program generalizing number with
  | done result => exact .done result
  | ask request resume ih => exact .ask (answers number request) (ih _ _)

variable (event? : AnsweredCall interface → Option Event)

/-- Whether result and events of every run are related in some way, as long as nobody tells the
program to come to an end. -/
def Undisturbed (ends : Result → List Event → Prop) : Program interface Result → Prop
  | .done result => ends result []
  | .ask request resume => ∀ answer, ¬ request.Stops answer →
    (resume answer).Undisturbed fun result later =>
      ends result ((AnsweredRequest.event? event? ⟨request, answer⟩).toList ++ later)

variable {event?}

theorem undisturbed_pure {ends : Result → List Event → Prop} {result : Result}
    (ended : ends result []) : (pure result : Program interface Result).Undisturbed event? ends :=
  ended

theorem Undisturbed.mono {ends weaker : Result → List Event → Prop}
    {program : Program interface Result} (undisturbed : program.Undisturbed event? ends)
    (implied : ∀ result events, ends result events → weaker result events) :
    program.Undisturbed event? weaker := by
  induction program generalizing ends weaker with
  | done result => exact implied result [] undisturbed
  | ask request resume ih =>
      intro answer untold
      apply ih answer (undisturbed answer untold)
      intro result later
      exact implied result _

theorem Undisturbed.bind {ends : Other → List Event → Prop} {program : Program interface Result}
    {next : Result → Program interface Other}
    (undisturbed : program.Undisturbed event? fun result events =>
      (next result).Undisturbed event? fun outcome later => ends outcome (events ++ later)) :
    (program >>= next).Undisturbed event? ends := by
  induction program generalizing ends with
  | done result => exact undisturbed
  | ask request resume ih =>
      intro answer untold
      apply ih answer
      simpa only [List.append_assoc] using undisturbed answer untold

theorem Undisturbed.unlessStopped {ends : Option Result → List Event → Prop}
    {program : Program interface Result}
    (undisturbed : program.Undisturbed event? fun result => ends (some result)) :
    program.unlessStopped.Undisturbed event? ends := by
  induction program generalizing ends with
  | done result => exact undisturbed
  | ask request resume ih =>
      rw [Program.unlessStopped]
      intro answer untold
      cases answer with
      | none => exact absurd trivial untold
      | some answer => exact ih answer (undisturbed answer untold)

theorem Silent.undisturbed {Stage : Type} {discipline : Discipline interface Event Stage}
    {ends : Result → List Event → Prop} {program : Program interface Result}
    (silent : program.Silent discipline) (ended : ∀ result, ends result []) :
    program.Undisturbed discipline.event? ends := by
  induction program with
  | done result => exact ended result
  | ask request resume ih =>
      intro answer _
      have quiet : AnsweredRequest.event? discipline.event? ⟨request, answer⟩ = none := by
        rw [AnsweredRequest.event?]
        cases seen : request.answeredCall? answer with
        | none => rfl
        | some answered => exact silent.1 _ (Request.call?_of_answeredCall? seen) _
      rw [quiet]
      exact ih answer (silent.2 answer)

theorem Silent.undisturbed_bind {Stage : Type} {discipline : Discipline interface Event Stage}
    {ends : Other → List Event → Prop} {program : Program interface Result}
    {next : Result → Program interface Other} (silent : program.Silent discipline)
    (later : ∀ result, (next result).Undisturbed discipline.event? ends) :
    (program >>= next).Undisturbed discipline.event? ends :=
  .bind (silent.undisturbed later)

theorem undisturbed_request {ends : Other → List Event → Prop} {request : Request interface}
    {next : request.Answer → Program interface Other} (callsNothing : request.call? = none)
    (later : ∀ answer, ¬ request.Stops answer → (next answer).Undisturbed event? ends) :
    (Program.request request >>= next).Undisturbed event? ends := by
  intro answer untold
  have unseen : request.answeredCall? answer = none := by
    cases seen : request.answeredCall? answer with
    | none => rfl
    | some answered =>
        rw [Request.call?_of_answeredCall? seen] at callsNothing
        cases callsNothing
  simpa [AnsweredRequest.event?, unseen] using later answer untold

/-- What is known of undisturbed runs holds of each run in which nobody tells the program to come to
an end. -/
theorem Undisturbed.of_traces {ends : Result → List Event → Prop}
    {program : Program interface Result} {trace : List (AnsweredRequest interface)}
    {result : Result} (undisturbed : program.Undisturbed event? ends)
    (traces : program.Traces trace result) (untold : ∀ answered ∈ trace, ¬ answered.Stops) :
    ends result (trace.filterMap (AnsweredRequest.event? event?)) := by
  induction traces generalizing ends with
  | done result => exact undisturbed
  | @ask request resume trace result answer later ih =>
      have first := untold _ List.mem_cons_self
      have rest := ih (undisturbed answer first) fun other member =>
        untold other (List.mem_cons_of_mem _ member)
      cases event : AnsweredRequest.event? event? ⟨request, answer⟩ with
      | none => simpa [event] using rest
      | some happened => simpa [event] using rest

end Program

namespace RetryPolicy

variable {interface : Interface} {Event Result : Type}

/-- How a round of attempts ends, given the outcomes of the attempts. -/
inductive Concludes :
    (retriesLeft number : Nat) → List (Except Failure Result) → Except Failure Result → Prop where
  | succeeds {retriesLeft number : Nat} (result : Result) :
      Concludes retriesLeft number [.ok result] (.ok result)
  | refused {retriesLeft number : Nat} {failure : Failure}
      (permanent : failure.isTransient = false) :
      Concludes retriesLeft number [.error failure] (.error failure)
  | exhausted {number : Nat} {failure : Failure} (transient : failure.isTransient = true) :
      Concludes 0 number [.error failure] (.error (.retryExhausted number failure.message))
  | again {retriesLeft number : Nat} {failure : Failure} {outcomes : List (Except Failure Result)}
      {result : Except Failure Result} (transient : failure.isTransient = true)
      (rest : Concludes retriesLeft (number + 1) outcomes result) :
      Concludes (retriesLeft + 1) number (.error failure :: outcomes) result

variable {policy : RetryPolicy} {operation : String}
  {event? : AnsweredCall interface → Option Event}

/-- A round that fails has used up its attempts, or one of them was refused. -/
theorem Concludes.of_error {retriesLeft number : Nat} {outcomes : List (Except Failure Result)}
    {failure : Failure} (concludes : Concludes retriesLeft number outcomes (.error failure)) :
    ∃ failures : List Failure, outcomes = failures.map .error ∧
      ((failures.length = retriesLeft + 1 ∧ ∀ failure ∈ failures, failure.isTransient = true) ∨
        ∃ former last, failures = former ++ [last] ∧ former.length ≤ retriesLeft ∧
          last.isTransient = false ∧ ∀ failure ∈ former, failure.isTransient = true) := by
  generalize ended : (Except.error failure : Except Failure Result) = result at concludes
  induction concludes with
  | succeeds result => cases ended
  | @refused _ _ last permanent =>
      exact ⟨[last], rfl, .inr ⟨[], last, rfl, Nat.zero_le _, permanent, nofun⟩⟩
  | @exhausted _ last transient => exact ⟨[last], rfl, .inl ⟨rfl, by simpa using transient⟩⟩
  | @again retriesLeft _ first _ _ transient _ ih =>
      rcases ih ended with ⟨failures, rfl, ⟨full, all⟩ | ⟨former, last, rfl, fits, permanent, all⟩⟩
      · refine ⟨first :: failures, rfl, .inl ⟨by rw [List.length_cons, full], ?_⟩⟩
        exact List.forall_mem_cons.mpr ⟨transient, all⟩
      · refine ⟨_ :: _, rfl,
          .inr ⟨first :: former, last, rfl, Nat.succ_le_succ fits, permanent, ?_⟩⟩
        exact List.forall_mem_cons.mpr ⟨transient, all⟩

/-- Whether attempts have failed as often as the policy allows, each for a reason that may pass. -/
def Exhausted (policy : RetryPolicy) (failures : List Failure) : Prop :=
  failures.length = policy.maxAttempts ∧ ∀ failure ∈ failures, failure.isTransient = true

/-- Whether attempts have failed until one of them failed for a reason that will not pass. -/
def Refused (policy : RetryPolicy) (failures : List Failure) (last : Failure) : Prop :=
  last.isTransient = false ∧ ∃ former, failures = former ++ [last] ∧
    former.length < policy.maxAttempts ∧ ∀ failure ∈ former, failure.isTransient = true

theorem exhausted_or_refused {outcomes : List (Except Failure Result)} {failure : Failure}
    (concludes : Concludes policy.maxRetries.toNat 1 outcomes (.error failure)) :
    ∃ failures : List Failure, outcomes = failures.map .error ∧
      (policy.Exhausted failures ∨ ∃ last, policy.Refused failures last) := by
  rcases concludes.of_error with
    ⟨failures, outcomes_eq, ⟨full, all⟩ | ⟨former, last, split, fits, permanent, all⟩⟩
  · exact ⟨failures, outcomes_eq, .inl ⟨full, all⟩⟩
  · exact ⟨failures, outcomes_eq,
      .inr ⟨last, permanent, former, split, Nat.lt_succ_of_le fits, all⟩⟩

/-- A round of attempts of which each is seen with its outcome. -/
theorem undisturbed_retryingFrom {attempt : Program interface (Except Failure Result)}
    {seen : Except Failure Result → Event}
    (once : attempt.Undisturbed event? fun outcome events => events = [seen outcome])
    (retriesLeft number : Nat) :
    (policy.retryingFrom operation attempt retriesLeft number).Undisturbed event?
      fun result events => ∃ outcomes, Concludes retriesLeft number outcomes result ∧
        events = outcomes.map seen := by
  induction retriesLeft using Nat.strongRecOn generalizing number with
  | ind retriesLeft ih =>
      rw [retryingFrom.eq_def]
      refine .bind (once.mono ?_)
      rintro (failure | result) _ rfl
      · by_cases transient : failure.isTransient = true
        · simp only [transient, Bool.true_eq_false, if_false]
          cases retriesLeft with
          | zero => exact Program.undisturbed_pure ⟨_, .exhausted transient, rfl⟩
          | succ retriesLeft =>
              refine Program.undisturbed_request rfl fun phase _ => ?_
              refine Program.undisturbed_request rfl fun _ _ => ?_
              refine Program.undisturbed_request rfl fun _ _ => ?_
              refine (ih retriesLeft (Nat.lt_succ_self _) (number + 1)).mono ?_
              rintro result _ ⟨outcomes, concludes, rfl⟩
              exact ⟨_, .again transient concludes, rfl⟩
        · rw [Bool.not_eq_true] at transient
          simp only [transient, if_true]
          exact Program.undisturbed_pure ⟨_, .refused transient, rfl⟩
      · exact Program.undisturbed_pure ⟨_, .succeeds result, rfl⟩

end RetryPolicy

end SwapLedger
