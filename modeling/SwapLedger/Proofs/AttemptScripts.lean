import Mathlib.Data.List.Basic
import Mathlib.Logic.Function.Basic
import SwapLedger.NodeClient
import SwapLedger.Proofs.UndisturbedRuns

/-!
# Attempts that go by a script

A script says how an operation goes each time it is tried. It settles with the first attempt that
succeeds or fails for a reason that will not pass. An operation that is retried follows its script
up to there, with one wait after each attempt but the last, and up to the greatest number of
attempts that the policy allows if the script has not settled by then; nothing else can happen.
Calls of nodes are repeated in the same way.
-/

namespace SwapLedger

/-- How an operation goes each time it is tried. Attempts count from one. -/
structure AttemptScript {interface : Interface} {Result : Type}
    (attempt : Program interface (Except Failure Result)) where
  trace : Nat → List (AnsweredRequest interface)
  outcome : Nat → Except Failure Result
  goes : ∀ number, attempt.Traces (trace number) (outcome number)

namespace RetryPolicy

/-- Whether an outcome is a success, or a failure that will not pass. -/
def Final {Result : Type} : Except Failure Result → Prop
  | .ok _ => True
  | .error failure => failure.isTransient = false

/-- Attempts go on after a transient failure and only then. -/
theorem not_final_iff {Result : Type} {outcome : Except Failure Result} :
    ¬ Final outcome ↔ ∃ failure, outcome = .error failure ∧ failure.isTransient = true := by
  cases outcome with
  | ok result => simp [Final]
  | error failure => simp [Final]

variable {interface : Interface} {Result : Type}

/-- What happens after an attempt that is not the last: the failure is logged, and time passes. -/
def interlude (policy : RetryPolicy) (operation : String) (number phase : Nat) :
    Except Failure Result → List (AnsweredRequest interface)
  | .ok _ => []
  | .error failure =>
    let delay := (policy.delayMs number phase).toNat
    [⟨.draw, phase⟩,
      ⟨.report (.retrying operation number policy.maxAttempts delay failure), ()⟩,
      ⟨.pause delay, ()⟩]

end RetryPolicy

namespace AttemptScript

open RetryPolicy

variable {interface : Interface} {Result : Type}
  {attempt : Program interface (Except Failure Result)} (script : AttemptScript attempt)

/-- Whether an attempt is the first one from some number on with a final outcome. -/
structure Settles (first number : Nat) : Prop where
  first_le : first ≤ number
  final : Final (script.outcome number)
  earlier : ∀ other, first ≤ other → other < number → ¬ Final (script.outcome other)

/-- Which attempt is the last one, if attempts begin with some number and go on up to another at
most, and what comes out of it all. -/
inductive Ends (first greatest : Nat) : (last : Nat) → Except Failure Result → Prop where
  | settled {number : Nat} (settles : script.Settles first number) (allowed : number ≤ greatest) :
      Ends first greatest number (script.outcome number)
  | exhausted {failure : Failure}
      (unsettled : ∀ number, script.Settles first number → greatest < number)
      (last : script.outcome greatest = .error failure) :
      Ends first greatest greatest (.error (.retryExhausted greatest failure.message))

/-- All that happens from one attempt to another. -/
def course (policy : RetryPolicy) (operation : String) (phases : Nat → Nat) (first last : Nat) :
    List (AnsweredRequest interface) :=
  (List.range' first (last - first)).flatMap (fun number =>
      script.trace number ++
        policy.interlude operation number (phases number) (script.outcome number)) ++
    script.trace last

variable {script} {first greatest last number : Nat} {result : Except Failure Result}

theorem settles_of_final (final : Final (script.outcome first)) :
    script.Settles first number ↔ number = first := by
  constructor
  · rintro ⟨reached, _, earlier⟩
    by_contra other
    exact earlier first (Nat.le_refl _) (by omega) final
  · rintro rfl
    exact ⟨Nat.le_refl _, final, fun other reached before => by omega⟩

/-- After a transient failure the first final attempt is the first among the later ones. -/
theorem settles_succ (transient : ¬ Final (script.outcome first)) :
    script.Settles first number ↔ script.Settles (first + 1) number := by
  constructor
  · rintro ⟨reached, final, earlier⟩
    have beyond : first ≠ number := by
      rintro rfl
      exact transient final
    exact ⟨by omega, final, fun other reached => earlier other (by omega)⟩
  · rintro ⟨reached, final, earlier⟩
    refine ⟨by omega, final, fun other reached before => ?_⟩
    rcases Nat.eq_or_lt_of_le reached with rfl | later
    · exact transient
    · exact earlier other later before

theorem ends_of_final (final : Final (script.outcome first)) (allowed : first ≤ greatest) :
    script.Ends first greatest last result ↔ last = first ∧ result = script.outcome first := by
  constructor
  · rintro (⟨settles, _⟩ | ⟨unsettled, _⟩)
    · rw [settles_of_final final] at settles
      exact ⟨settles, congrArg _ settles⟩
    · exact absurd (unsettled first ((settles_of_final final).mpr rfl)) (by omega)
  · rintro ⟨rfl, rfl⟩
    exact .settled ((settles_of_final final).mpr rfl) allowed

/-- A transient failure of the last attempt allowed ends the course, with the retries spent. -/
theorem ends_of_greatest {failure : Failure} (outcome : script.outcome first = .error failure)
    (transient : failure.isTransient = true) :
    script.Ends first first last result ↔
      last = first ∧ result = .error (.retryExhausted first failure.message) := by
  have unfinished : ¬ Final (script.outcome first) :=
    not_final_iff.mpr ⟨failure, outcome, transient⟩
  have unsettled : ∀ number, script.Settles first number → first < number := by
    intro number settles
    exact ((settles_succ unfinished).mp settles).first_le
  constructor
  · rintro (⟨settles, allowed⟩ | ⟨_, last⟩)
    · exact absurd (unsettled _ settles) (by omega)
    · rw [outcome, Except.error.injEq] at last
      exact ⟨rfl, by rw [last]⟩
  · rintro ⟨rfl, rfl⟩
    exact .exhausted unsettled outcome

/-- After a transient failure that leaves a retry the course ends where the course of the later
attempts does. -/
theorem ends_succ (transient : ¬ Final (script.outcome first)) {retries : Nat} :
    script.Ends first (first + (retries + 1)) last result ↔
      script.Ends (first + 1) (first + 1 + retries) last result := by
  have settles (number : Nat) := @settles_succ _ _ _ script first number transient
  rw [Nat.add_assoc first, Nat.add_comm 1]
  constructor
  · rintro (⟨settled, allowed⟩ | ⟨unsettled, last⟩)
    · exact .settled ((settles _).mp settled) allowed
    · exact .exhausted (fun number settled => unsettled number ((settles number).mpr settled)) last
  · rintro (⟨settled, allowed⟩ | ⟨unsettled, last⟩)
    · exact .settled ((settles _).mpr settled) allowed
    · exact .exhausted (fun number settled => unsettled number ((settles number).mp settled)) last

/-- A final attempt within the budget means a first one. -/
theorem exists_settles (retries : Nat) (final : Final (script.outcome (first + retries))) :
    ∃ number, number ≤ first + retries ∧ script.Settles first number := by
  induction retries generalizing first with
  | zero => exact ⟨first, Nat.le_refl _, (settles_of_final final).mpr rfl⟩
  | succ retries ih =>
      by_cases now : Final (script.outcome first)
      · exact ⟨first, Nat.le_add_right _ _, (settles_of_final now).mpr rfl⟩
      · rw [← Nat.succ_add_eq_add_succ] at final ⊢
        rcases ih final with ⟨number, within, settles⟩
        exact ⟨number, within, (settles_succ now).mpr settles⟩

/-- A final outcome ends the script. -/
theorem Ends.of_final (ends : script.Ends first greatest last result) (begun : first ≤ number)
    (before : number ≤ last) (final : Final (script.outcome number)) :
    number = last ∧ result = script.outcome number := by
  cases ends with
  | settled settles =>
      rcases Nat.eq_or_lt_of_le before with rfl | earlier
      · exact ⟨rfl, rfl⟩
      · exact absurd final (settles.earlier number begun earlier)
  | exhausted unsettled =>
      rcases Nat.exists_eq_add_of_le begun with ⟨retries, rfl⟩
      rcases exists_settles retries final with ⟨other, within, settles⟩
      exact absurd (unsettled other settles) (by omega)

theorem Ends.first_le (ends : script.Ends first greatest last result) (allowed : first ≤ greatest) :
    first ≤ last := by
  cases ends with
  | settled settles => exact settles.first_le
  | exhausted => exact allowed

theorem existsUnique_ends_of_iff
    (only : ∀ other outcome, script.Ends first greatest other outcome ↔
      other = last ∧ outcome = result) :
    ∃! ending : Nat × Except Failure Result, script.Ends first greatest ending.1 ending.2 := by
  simp only [only]
  exact ⟨(last, result), ⟨rfl, rfl⟩, fun _ same => Prod.ext same.1 same.2⟩

/-- Every script ends, and in one way only. -/
theorem existsUnique_ends (script : AttemptScript attempt) (retries first : Nat) :
    ∃! ending : Nat × Except Failure Result,
      script.Ends first (first + retries) ending.1 ending.2 := by
  induction retries generalizing first with
  | zero =>
      by_cases final : Final (script.outcome first)
      · exact existsUnique_ends_of_iff fun _ _ => ends_of_final final (Nat.le_refl _)
      · rcases not_final_iff.mp final with ⟨failure, outcome, transient⟩
        exact existsUnique_ends_of_iff fun _ _ => ends_of_greatest outcome transient
  | succ retries ih =>
      by_cases final : Final (script.outcome first)
      · exact existsUnique_ends_of_iff fun _ _ => ends_of_final final (Nat.le_add_right _ _)
      · simp only [ends_succ final]
        exact ih (first + 1)

variable {policy : RetryPolicy} {operation : String} {phases : Nat → Nat}

theorem course_self : script.course policy operation phases first first = script.trace first := by
  simp [course]

theorem course_of_lt (more : first < last) :
    script.course policy operation phases first last = script.trace first ++
      (policy.interlude operation first (phases first) (script.outcome first) ++
        script.course policy operation phases (first + 1) last) := by
  have count : last - first = last - (first + 1) + 1 := by omega
  rw [course, count, List.range'_succ, List.flatMap_cons, List.append_assoc, List.append_assoc]
  rfl

/-! ### Scripts that agree from some attempt on -/

variable {other : AttemptScript attempt}

/-- Which attempt is the first final one depends on the attempts from the first on only. -/
theorem Settles.congr (agree : ∀ number, first ≤ number →
      script.outcome number = other.outcome number) (settles : script.Settles first number) :
    other.Settles first number := by
  rcases settles with ⟨reached, final, earlier⟩
  refine ⟨reached, agree number reached ▸ final, fun former reached before => ?_⟩
  exact agree former reached ▸ earlier former reached before

theorem Ends.congr (agree : ∀ number, first ≤ number →
      script.outcome number = other.outcome number) (allowed : first ≤ greatest)
    (ends : script.Ends first greatest last result) : other.Ends first greatest last result := by
  cases ends with
  | settled settles within =>
      rw [agree _ settles.first_le]
      exact .settled (settles.congr agree) within
  | exhausted unsettled failed =>
      refine .exhausted (fun number settles => unsettled number ?_) (agree _ allowed ▸ failed)
      exact settles.congr fun number reached => (agree number reached).symm

/-- The course of the attempts depends on those that are made, and on the phases at which they fail.
-/
theorem course_congr {phases' : Nat → Nat} (reached : first ≤ last)
    (agree : ∀ number, first ≤ number → script.outcome number = other.outcome number ∧
      script.trace number = other.trace number ∧ phases number = phases' number) :
    script.course policy operation phases first last =
      other.course policy operation phases' first last := by
  rw [course, course, (agree last reached).2.1]
  refine congrArg (· ++ other.trace last) (List.flatMap_congr fun number member => ?_)
  rcases agree number (List.mem_range'_1.mp member).1 with ⟨outcome, trace, phase⟩
  rw [outcome, trace, phase]

/-- The script that goes in the same way all the time. -/
def always {trace : List (AnsweredRequest interface)} {outcome : Except Failure Result}
    (goes : attempt.Traces trace outcome) : AttemptScript attempt :=
  ⟨fun _ => trace, fun _ => outcome, fun _ => goes⟩

/-- The script with another way to go at one attempt. -/
def goingAt (script : AttemptScript attempt) (number : Nat)
    {trace : List (AnsweredRequest interface)} {outcome : Except Failure Result}
    (goes : attempt.Traces trace outcome) : AttemptScript attempt where
  trace := Function.update script.trace number trace
  outcome := Function.update script.outcome number outcome
  goes other := by
    by_cases same : other = number
    · subst same
      simpa using goes
    · simpa [Function.update_of_ne same] using script.goes other

end AttemptScript

namespace RetryPolicy

variable {interface : Interface} {Result : Type} {policy : RetryPolicy} {operation : String}
  {attempt : Program interface (Except Failure Result)}

variable (policy operation attempt) in
/-- How a round of attempts goes on after an attempt. -/
inductive GoesOn : (retriesLeft number : Nat) → Except Failure Result →
    List (AnsweredRequest interface) → Except Failure Result → Prop where
  | final {retriesLeft number : Nat} {outcome : Except Failure Result} (final : Final outcome) :
      GoesOn retriesLeft number outcome [] outcome
  | exhausted {number : Nat} {failure : Failure} (transient : failure.isTransient = true) :
      GoesOn 0 number (.error failure) [] (.error (.retryExhausted number failure.message))
  | again {retriesLeft number : Nat} {failure : Failure} (phase : Nat)
      {trace : List (AnsweredRequest interface)} {result : Except Failure Result}
      (transient : failure.isTransient = true)
      (later : (policy.retryingFrom operation attempt retriesLeft (number + 1)).Traces
        trace result) :
      GoesOn (retriesLeft + 1) number (.error failure)
        (policy.interlude operation number phase (.error failure : Except Failure Result) ++ trace)
        result

section GoesOn

variable {retriesLeft number : Nat} {trace : List (AnsweredRequest interface)}
  {result : Except Failure Result}

/-- After a final outcome nothing is done. -/
theorem goesOn_of_final {outcome : Except Failure Result} (final : Final outcome) :
    GoesOn policy operation attempt retriesLeft number outcome trace result ↔
      trace = [] ∧ result = outcome := by
  constructor
  · rintro (_ | transient | ⟨_, transient⟩)
    · exact ⟨rfl, rfl⟩
    · simp [Final, transient] at final
    · simp [Final, transient] at final
  · rintro ⟨rfl, rfl⟩
    exact .final final

/-- Without a retry left a transient failure becomes the failure of the whole. -/
theorem goesOn_zero {failure : Failure} (transient : failure.isTransient = true) :
    GoesOn policy operation attempt 0 number (.error failure) trace result ↔
      trace = [] ∧ result = .error (.retryExhausted number failure.message) := by
  constructor
  · rintro (final | _)
    · simp [Final, transient] at final
    · exact ⟨rfl, rfl⟩
  · rintro ⟨rfl, rfl⟩
    exact .exhausted transient

/-- With a retry left the failure is reported, the delay is waited for and the attempts go on. -/
theorem goesOn_succ {failure : Failure} (transient : failure.isTransient = true) :
    GoesOn policy operation attempt (retriesLeft + 1) number (.error failure) trace result ↔
      ∃ phase later, trace = policy.interlude operation number phase
          (.error failure : Except Failure Result) ++ later ∧
        (policy.retryingFrom operation attempt retriesLeft (number + 1)).Traces later result := by
  constructor
  · rintro (final | _ | ⟨phase, _, traces⟩)
    · simp [Final, transient] at final
    · exact ⟨phase, _, rfl, traces⟩
  · rintro ⟨phase, later, rfl, traces⟩
    exact .again phase transient traces

/-- A round of attempts begins with an attempt, and how it goes on depends on the outcome of that
attempt only. -/
theorem traces_retryingFrom :
    (policy.retryingFrom operation attempt retriesLeft number).Traces trace result ↔
      ∃ first outcome later, trace = first ++ later ∧ attempt.Traces first outcome ∧
        GoesOn policy operation attempt retriesLeft number outcome later result := by
  rw [retryingFrom.eq_def, Program.traces_bind]
  refine exists_congr fun first => exists_congr fun outcome => exists_congr fun later =>
    and_congr_right fun _ => and_congr_right fun _ => ?_
  cases outcome with
  | ok value =>
      have final : Final (.ok value : Except Failure Result) := trivial
      rw [Program.traces_pure, goesOn_of_final final]
  | error failure =>
      by_cases permanent : failure.isTransient = false
      · have final : Final (.error failure : Except Failure Result) := permanent
        rw [goesOn_of_final final]
        simp only [permanent, if_true]
        exact Program.traces_pure
      · have transient := Bool.not_eq_false _ ▸ permanent
        simp only [transient, Bool.true_eq_false, if_false]
        cases retriesLeft with
        | zero => rw [Program.traces_pure, goesOn_zero transient]
        | succ retriesLeft =>
            rw [goesOn_succ transient]
            constructor
            · intro traces
              rcases Program.traces_request.mp traces with ⟨phase, _, rfl, drawn⟩
              rcases Program.traces_request.mp drawn with ⟨_, _, rfl, reported⟩
              rcases Program.traces_request.mp reported with ⟨_, later, rfl, waited⟩
              exact ⟨phase, later, rfl, waited⟩
            · rintro ⟨phase, later, rfl, traces⟩
              refine Program.traces_request.mpr ⟨phase, _, rfl, ?_⟩
              refine Program.traces_request.mpr ⟨(), _, rfl, ?_⟩
              exact Program.traces_request.mpr ⟨(), later, rfl, traces⟩

end GoesOn

open AttemptScript

variable {trace : List (AnsweredRequest interface)} {result : Except Failure Result}

/-- A round of attempts goes by some script: one of the attempts that are left says nothing of the
first attempt, so that it can be extended by it. -/
theorem exists_script {retriesLeft first : Nat} {trace : List (AnsweredRequest interface)}
    (traces : (policy.retryingFrom operation attempt retriesLeft first).Traces trace result) :
    ∃ (script : AttemptScript attempt) (phases : Nat → Nat) (last : Nat),
      script.Ends first (first + retriesLeft) last result ∧
        trace = script.course policy operation phases first last := by
  rcases traces_retryingFrom.mp traces with ⟨start, outcome, rest, rfl, goes, goesOn⟩
  cases goesOn with
  | final final =>
      refine ⟨always goes, fun _ => 0, first, ?_, by simp [course_self, always]⟩
      exact (ends_of_final final (Nat.le_add_right _ _)).mpr ⟨rfl, rfl⟩
  | exhausted transient =>
      refine ⟨always goes, fun _ => 0, first, ?_, by simp [course_self, always]⟩
      exact (ends_of_greatest rfl transient).mpr ⟨rfl, rfl⟩
  | @again retriesLeft _ failure phase later _ transient traces =>
      rcases exists_script traces with ⟨script, phases, last, ends, rfl⟩
      have reached := ends.first_le (Nat.le_add_right _ _)
      have now : (script.goingAt first goes).outcome first = .error failure :=
        Function.update_self ..
      have later (number : Nat) (reached : first + 1 ≤ number) :
          script.outcome number = (script.goingAt first goes).outcome number ∧
            script.trace number = (script.goingAt first goes).trace number ∧
            phases number = Function.update phases first phase number := by
        have apart : number ≠ first := Nat.ne_of_gt reached
        simp [goingAt, Function.update_of_ne apart]
      refine ⟨script.goingAt first goes, Function.update phases first phase, last, ?_, ?_⟩
      · rw [ends_succ (not_final_iff.mpr ⟨failure, now, transient⟩)]
        exact ends.congr (fun number reached => (later number reached).1) (Nat.le_add_right _ _)
      · rw [course_of_lt reached, now, course_congr reached later, Function.update_self]
        simp [goingAt]
termination_by retriesLeft

/-- Every script is followed by a round of attempts. -/
theorem traces_course {script : AttemptScript attempt} {phases : Nat → Nat}
    {retriesLeft first last : Nat} (ends : script.Ends first (first + retriesLeft) last result) :
    (policy.retryingFrom operation attempt retriesLeft first).Traces
      (script.course policy operation phases first last) result := by
  by_cases final : Final (script.outcome first)
  · rcases (ends_of_final final (Nat.le_add_right _ _)).mp ends with ⟨rfl, rfl⟩
    rw [course_self, ← List.append_nil (script.trace last)]
    exact traces_retryingFrom.mpr ⟨_, _, _, rfl, script.goes last, .final final⟩
  · rcases not_final_iff.mp final with ⟨failure, outcome, transient⟩
    have goes := script.goes first
    rw [outcome] at goes
    cases retriesLeft with
    | zero =>
        rcases (ends_of_greatest outcome transient).mp ends with ⟨rfl, rfl⟩
        rw [course_self, ← List.append_nil (script.trace last)]
        exact traces_retryingFrom.mpr ⟨_, _, _, rfl, goes, .exhausted transient⟩
    | succ retriesLeft =>
        rw [ends_succ final] at ends
        rw [course_of_lt (ends.first_le (Nat.le_add_right _ _)), outcome]
        exact traces_retryingFrom.mpr
          ⟨_, _, _, rfl, goes, .again (phases first) transient (traces_course ends)⟩
termination_by retriesLeft

variable (policy operation attempt) in
/-- How a program that repeats an attempt goes if its failures are told in some way: by a script, up
to the first final outcome or the greatest number of attempts that the policy allows. -/
structure GoesByScript (told : Failure → Failure)
    (program : Program interface (Except Failure Result)) : Prop where
  ends (script : AttemptScript attempt) : ∃! ending : Nat × Except Failure Result,
    script.Ends 1 policy.maxAttempts ending.1 ending.2
  traces_iff (trace : List (AnsweredRequest interface)) (result : Except Failure Result) :
    program.Traces trace result ↔
      ∃ (script : AttemptScript attempt) (phases : Nat → Nat) (last : Nat)
        (outcome : Except Failure Result), script.Ends 1 policy.maxAttempts last outcome ∧
          trace = script.course policy operation phases 1 last ∧ result = outcome.mapError told
  /-- An attempt that finds no block is the last one. -/
  notFound (script : AttemptScript attempt) {last : Nat} {outcome : Except Failure Result}
    (ends : script.Ends 1 policy.maxAttempts last outcome) {number slot : Nat}
    (begun : 1 ≤ number) (before : number ≤ last)
    (found : script.outcome number = .error (.blockNotFound slot)) :
    number = last ∧ outcome.mapError told = .error (.blockNotFound slot)

theorem goesByScript_of_traces {told : Failure → Failure}
    {program : Program interface (Except Failure Result)}
    (kept : ∀ slot, told (.blockNotFound slot) = .blockNotFound slot)
    (traces : ∀ trace result, program.Traces trace result ↔
      ∃ outcome, (policy.retrying operation attempt).Traces trace outcome ∧
        result = outcome.mapError told) :
    policy.GoesByScript operation attempt told program := by
  have greatest : policy.maxAttempts = 1 + policy.maxRetries.toNat := Nat.add_comm _ _
  constructor
  case ends =>
    intro script
    rw [greatest]
    exact existsUnique_ends script _ 1
  case traces_iff =>
    intro trace result
    rw [traces, greatest]
    constructor
    · rintro ⟨outcome, retried, same⟩
      rcases exists_script retried with ⟨script, phases, last, ends, course⟩
      exact ⟨script, phases, last, outcome, ends, course, same⟩
    · rintro ⟨script, phases, last, outcome, ends, rfl, same⟩
      exact ⟨outcome, traces_course ends, same⟩
  case notFound =>
    intro script last outcome ends number slot begun before found
    have final : Final (script.outcome number) := found ▸ rfl
    rcases ends.of_final begun before final with ⟨same, rfl⟩
    rw [found, Except.mapError, kept]
    exact ⟨same, rfl⟩

theorem goesByScript_retrying : policy.GoesByScript operation attempt id
    (policy.retrying operation attempt) := by
  refine goesByScript_of_traces (fun _ => rfl) fun trace result => ?_
  have kept (outcome : Except Failure Result) : outcome.mapError id = outcome := by
    cases outcome <;> rfl
  simp [kept]

theorem goesByScript_repeating : policy.GoesByScript operation attempt NodeClient.failure
    (NodeClient.repeating policy operation attempt) := by
  refine goesByScript_of_traces (fun _ => rfl) fun trace result => ?_
  rw [NodeClient.repeating, Program.traces_bind]
  constructor
  · rintro ⟨trace, outcome, _, rfl, retried, told⟩
    rcases Program.traces_pure.mp told with ⟨rfl, rfl⟩
    exact ⟨outcome, by rwa [List.append_nil], rfl⟩
  · rintro ⟨outcome, retried, rfl⟩
    exact ⟨trace, outcome, [], (List.append_nil trace).symm, retried,
      Program.traces_pure.mpr ⟨rfl, rfl⟩⟩

/-- Retrying makes an attempt up to the first final outcome, which it returns, or as often as the
policy allows, and waits after each attempt but the last. Calls of a node are repeated in the same
way, except that a node which has failed too often counts as unavailable. -/
theorem retrying_by_script (policy : RetryPolicy) :
    (∀ {interface : Interface} {Result : Type} (operation : String)
      (attempt : Program interface (Except Failure Result)),
      policy.GoesByScript operation attempt id (policy.retrying operation attempt)) ∧
    ∀ {interface : Interface} (once : (call : NodeCall) → Program interface call.Answer),
      (∀ slot, policy.GoesByScript "get_block" (once (.block slot)) NodeClient.failure
        (NodeClient.call policy once (.block slot))) ∧
      policy.GoesByScript "get_slot" (once .tip) NodeClient.failure
        (NodeClient.call policy once .tip) ∧
      ∀ signature, policy.GoesByScript "get_transaction" (once (.transaction signature))
        NodeClient.failure (NodeClient.call policy once (.transaction signature)) :=
  ⟨fun _ _ => goesByScript_retrying, fun _ => ⟨fun _ => goesByScript_repeating,
    goesByScript_repeating, fun _ => goesByScript_repeating⟩⟩

/-- A node that fails once and then has no block is asked twice, with one wait in between. -/
theorem retrying_by_script_blockNotFound :
    let asked (failure : Failure) : AnsweredRequest Services :=
      ⟨.call (.node 0 (.block 7)), .error failure⟩
    let delay := (node.delayMs 1 0).toNat
    (NodeClient.call node (Services.node 0) (.block 7)).Traces
      [asked (.rpc "503"), ⟨.draw, 0⟩,
        ⟨.report (.retrying "get_block" 1 4 delay (.rpc "503")), ()⟩, ⟨.pause delay, ()⟩,
        asked (.blockNotFound 7)]
      (.error (.blockNotFound 7)) := by
  let failure (number : Nat) : Failure := if number = 1 then .rpc "503" else .blockNotFound 7
  let script : AttemptScript (Services.node 0 (.block 7)) :=
    ⟨fun number => [⟨.call (.node 0 (.block 7)), .error (failure number)⟩],
      fun number => .error (failure number), fun _ => .ask _ (.done _)⟩
  have settles : script.Settles 1 2 := by
    refine ⟨by decide, rfl, fun other begun before => ?_⟩
    have same : other = 1 := by omega
    subst same
    exact not_final_iff.mpr ⟨_, rfl, rfl⟩
  have follows := ((retrying_by_script node).2 (Services.node 0)).1 7
  exact (follows.traces_iff _ _).mpr
    ⟨script, fun _ => 0, 2, _, .settled settles (by decide), rfl, rfl⟩

end RetryPolicy

end SwapLedger
