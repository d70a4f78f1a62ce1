import SwapLedger.Log

/-!
# Programs

A program is a finite tree of requests: it asks its surroundings for something, and how it goes on
depends on the answer. What programs can call is described by an interface; time, the log and the
request to stop are the same for all interfaces. A program over one interface becomes a program over
another one when each call is replaced by a program that answers it.
-/

namespace SwapLedger

/-- What can be called, and what each call answers. -/
structure Interface where
  Call : Type
  Answer : Call → Type

/-- What a program asks of its surroundings. -/
inductive Request (interface : Interface) where
  /-- Writes an entry to the log. -/
  | report (entry : LogEntry)
  /-- What time it is, in milliseconds. -/
  | clock
  /-- Lets time pass. -/
  | pause (durationMs : Nat)
  /-- Whether the program should come to an end. -/
  | stopRequested
  /-- Some number that nobody can foresee. -/
  | draw
  | call (call : interface.Call)
  /-- The request, given up as soon as the program should come to an end. -/
  | unlessStopped (request : Request interface)

namespace Request

variable {interface : Interface}

/-- What a request is answered with; one that was given up is answered with nothing. -/
@[reducible] def Answer : Request interface → Type
  | .report _ => Unit
  | .clock => Nat
  | .pause _ => Unit
  | .stopRequested => Bool
  | .draw => Nat
  | .call asked => interface.Answer asked
  | .unlessStopped request => Option request.Answer

end Request

/-- A tree of requests that ends in results. -/
inductive Program (interface : Interface) (Result : Type) where
  | done (result : Result)
  | ask (request : Request interface) (resume : request.Answer → Program interface Result)

namespace Program

variable {interface target : Interface} {First Second : Type}

/-- Goes on after the first program with one that depends on its result. -/
def andThen (first : Program interface First) (next : First → Program interface Second) :
    Program interface Second :=
  match first with
  | .done result => next result
  | .ask request resume => .ask request fun answer => (resume answer).andThen next

instance : Monad (Program interface) where
  pure := .done
  bind := andThen

/-- Goes on after a success; a failure is the result. -/
def onSuccess {Error : Type} (first : Program interface (Except Error First))
    (next : First → Program interface (Except Error Second)) :
    Program interface (Except Error Second) :=
  first.andThen fun
    | .ok value => next value
    | .error error => .done (.error error)

/-- A single request. -/
def request (request : Request interface) : Program interface request.Answer :=
  .ask request .done

/-- A single call. -/
def call (call : interface.Call) : Program interface (interface.Answer call) :=
  .ask (.call call) .done

/-- Writes an entry to the log. -/
def report (entry : LogEntry) : Program interface Unit := request (.report entry)

/-- Writes entries to the log, in order. -/
def reportAll (entries : List LogEntry) : Program interface Unit :=
  entries.foldr (fun entry rest => .ask (.report entry) fun _ => rest) (.done ())

/-- What time it is, in milliseconds. -/
def clock : Program interface Nat := request .clock

/-- Lets time pass. -/
def pause (durationMs : Nat) : Program interface Unit := request (.pause durationMs)

/-- Lets time pass until an instant, at once if it is over. -/
def pauseUntil (instant : Nat) : Program interface Unit := do
  pause (instant - (← clock))

/-- Whether the program should come to an end. -/
def stopRequested : Program interface Bool := request .stopRequested

/-- Gives a program up, between two requests or while one is pending, as soon as it should come to
an end. -/
def unlessStopped : Program interface First → Program interface (Option First)
  | .done result => .done (some result)
  | .ask request resume => .ask (.unlessStopped request) fun
    | none => .done none
    | some answer => (resume answer).unlessStopped

end Program

namespace Request

variable {interface target : Interface}

/-- Answers a request by means of another interface. -/
def lower (implement : (call : interface.Call) → Program target (interface.Answer call)) :
    (request : Request interface) → Program target request.Answer
  | .report entry => .request (.report entry)
  | .clock => .request .clock
  | .pause duration => .request (.pause duration)
  | .stopRequested => .request .stopRequested
  | .draw => .request .draw
  | .call asked => implement asked
  | .unlessStopped request => (request.lower implement).unlessStopped

end Request

namespace Program

variable {interface target : Interface} {First Second : Type}

/-- Replaces each call by a program over another interface. -/
def lower (implement : (call : interface.Call) → Program target (interface.Answer call)) :
    Program interface First → Program target First
  | .done result => .done result
  | .ask request resume =>
    (request.lower implement).andThen fun answer => (resume answer).lower implement

@[simp]
theorem done_andThen (result : First) (next : First → Program interface Second) :
    (Program.done result : Program interface First).andThen next = next result := rfl

@[simp]
theorem andThen_done (program : Program interface First) : program.andThen .done = program := by
  induction program with
  | done result => rfl
  | ask request resume hypothesis =>
    simp only [andThen]
    exact congrArg (Program.ask request) (funext hypothesis)

end Program

end SwapLedger
