import SwapLedger.Job
import SwapLedger.Program

/-!
# Programs side by side

A schedule runs programs side by side in surroundings that are a value: a world. Requests take no
time except where something is waited for. When every program waits, the clock moves on to the next
instant for which one of them waits. All that has been asked and answered is kept as a history.
-/

namespace SwapLedger

/-- What becomes of a request. -/
inductive Served (World Answer : Type) where
  | answered (answer : Answer) (world : World)
  /-- There is no answer yet; one may come at an instant, or when something else happens. -/
  | pending (wake : Option Nat) (world : World)

namespace Served

variable {World First Second : Type}

/-- Changes an answer that has been given. -/
def map (change : First → Second) : Served World First → Served World Second
  | .answered answer world => .answered (change answer) world
  | .pending wake world => .pending wake world

end Served

/-- When and by whom a request is made. -/
structure Moment where
  now : Nat
  /-- Since when the request has been pending. -/
  since : Nat
  /-- The number of the task. -/
  task : Nat
  /-- Whether the task should come to an end. -/
  stopped : Bool

/-- Something that happened to a task. -/
inductive Event (interface : Interface) where
  | answered (call : interface.Call) (answer : interface.Answer call)
  | logged (entry : LogEntry)

/-- How a world answers. -/
structure Surroundings (interface : Interface) (World : Type) where
  serve : Moment → World → (call : interface.Call) → Served World (interface.Answer call)
  /-- The world after a task has given up what it was waiting for. -/
  abandon : Nat → World → World
  /-- The signals that have been given. -/
  signals : World → List StopSignal
  /-- The jobs that have been launched and not taken up. -/
  launched : World → List Job × World
  /-- The world after a job has ended. -/
  ended : JobKind → World → World
  /-- How a job goes on. -/
  turn : Job → Program interface (Option Job)

/-- What a task leads to: the next turn of a job, or a result. -/
inductive Ending (Result : Type) where
  | job (kind : JobKind) (next : Option Job)
  | result (value : Result)

/-- A program that is being run. -/
structure Task (interface : Interface) (Result : Type) where
  id : Nat
  /-- The signal that the task heeds, if it heeds any. -/
  signal : Option StopSignal
  program : Program interface (Ending Result)
  /-- Since when the first request of the program has been pending. -/
  since : Nat
  /-- The instant for which the task waits. -/
  wake : Option Nat

/-- Programs that are run side by side. -/
structure Schedule (interface : Interface) (World Result : Type) where
  now : Nat
  nextId : Nat
  tasks : List (Task interface Result)
  /-- What tasks resulted in. -/
  results : List (Nat × Result)
  world : World
  /-- What has happened, the newest first. -/
  history : List (Nat × Event interface)

namespace Surroundings

variable {interface : Interface} {World Result : Type} (surroundings : Surroundings interface World)

/-- Answers a request, and tells what happened. -/
def serveRequest (moment : Moment) (world : World) :
    (request : Request interface) → Served World (request.Answer × List (Event interface))
  | .report entry => .answered ((), [.logged entry]) world
  | .clock => .answered (moment.now, []) world
  | .pause duration =>
    if moment.since + duration ≤ moment.now then .answered ((), []) world
    else .pending (some (moment.since + duration)) world
  | .stopRequested => .answered (moment.stopped, []) world
  | .draw => .answered (moment.now, []) world
  | .call call =>
    (surroundings.serve moment world call).map fun answer => (answer, [.answered call answer])
  | .unlessStopped request =>
    if moment.stopped then .answered (none, []) (surroundings.abandon moment.task world)
    else
      (serveRequest moment world request).map fun (answer, events) => (some answer, events)

/-- Whether a signal reaches those who heed the given one. -/
def reached (signal : Option StopSignal) (world : World) : Bool :=
  signal.any fun signal => signal.reachedBy (surroundings.signals world)

/-- What running a task up to its next wait gives. -/
structure Progress (interface : Interface) (World Result : Type) where
  /-- The rest of the program, or what it ended with. -/
  rest : Ending Result ⊕ Program interface (Ending Result)
  since : Nat
  wake : Option Nat
  /-- Whether any request has been answered. -/
  moved : Bool
  world : World
  /-- What happened, the newest first. -/
  events : List (Event interface)

/-- Runs a program as far as it gets without waiting. -/
def advance (now task : Nat) (signal : Option StopSignal) :
    Program interface (Ending Result) → (since : Nat) → (moved : Bool) → World →
      List (Event interface) → Progress interface World Result
  | .done ending, since, _, world, events => ⟨.inl ending, since, none, true, world, events⟩
  | .ask request resume, since, moved, world, events =>
    let moment : Moment := ⟨now, since, task, surroundings.reached signal world⟩
    match surroundings.serveRequest moment world request with
    | .pending wake world => ⟨.inr (.ask request resume), since, wake, moved, world, events⟩
    | .answered (answer, happened) world =>
      advance now task signal (resume answer) now true world (happened ++ events)

/-- The task of a job. -/
def taskOf (id now : Nat) (job : Job) : Task interface Result :=
  ⟨id, some job.signal, (surroundings.turn job).andThen fun next => .done (.job job.kind next), now,
    some now⟩

end Surroundings

namespace Schedule

variable {interface : Interface} {World Result : Type} (surroundings : Surroundings interface World)

/-- Nothing has happened yet. -/
def initial (world : World) : Schedule interface World Result := ⟨0, 0, [], [], world, []⟩

/-- Adds a program whose result is wanted. -/
def add (schedule : Schedule interface World Result) (signal : Option StopSignal)
    (program : Program interface Result) : Schedule interface World Result :=
  let task : Task interface Result :=
    ⟨schedule.nextId, signal, program.andThen fun result => .done (.result result), schedule.now,
      some schedule.now⟩
  { schedule with nextId := schedule.nextId + 1, tasks := schedule.tasks ++ [task] }

/-- Takes up the jobs that have been launched. -/
def takeUp (schedule : Schedule interface World Result) : Schedule interface World Result :=
  let (jobs, world) := surroundings.launched schedule.world
  let tasks := jobs.zipIdx.map fun (job, index) =>
    surroundings.taskOf (schedule.nextId + index) schedule.now job
  { schedule with
    nextId := schedule.nextId + jobs.length, tasks := schedule.tasks ++ tasks, world }

/-- Runs one task as far as it gets; what is left of it is put before the tasks of the schedule. -/
def runTask (schedule : Schedule interface World Result) (task : Task interface Result) :
    Schedule interface World Result × Bool :=
  let progress := surroundings.advance schedule.now task.id task.signal task.program task.since
    false schedule.world []
  let history := progress.events.map (schedule.now, ·) ++ schedule.history
  let schedule := { schedule with world := progress.world, history }
  let next := match progress.rest with
    | .inr rest =>
      let task := { task with program := rest, since := progress.since, wake := progress.wake }
      { schedule with tasks := task :: schedule.tasks }
    | .inl (.result value) => { schedule with results := (task.id, value) :: schedule.results }
    | .inl (.job kind none) => { schedule with world := surroundings.ended kind schedule.world }
    | .inl (.job _ (some next)) =>
      let task := surroundings.taskOf task.id schedule.now next
      { schedule with tasks := task :: schedule.tasks }
  (next, progress.moved)

/-- Takes up what has been launched and runs every task as far as it gets. Answers also whether any
task got anywhere. -/
def round (schedule : Schedule interface World Result) : Schedule interface World Result × Bool :=
  let schedule := takeUp surroundings schedule
  let (ran, moved) := schedule.tasks.foldl (fun (schedule, moved) task =>
    let (schedule, movedNow) := runTask surroundings schedule task
    (schedule, moved || movedNow)) ({ schedule with tasks := [] }, false)
  ({ ran with tasks := ran.tasks.reverse }, moved)

/-- Runs the tasks until all of them wait. -/
def settle : (fuel : Nat) → Schedule interface World Result → Schedule interface World Result
  | 0, schedule => schedule
  | fuel + 1, schedule =>
    match round surroundings schedule with
    | (schedule, true) => settle fuel schedule
    | (schedule, false) => schedule

/-- The next instant for which a task waits. -/
def nextWake? (schedule : Schedule interface World Result) : Option Nat :=
  ((schedule.tasks.filterMap (·.wake)).filter (schedule.now < ·)).min?

/-- How many rounds and instants a run may have. -/
def runFuel : Nat := 100000000

/-- Runs the tasks until the schedule is as wanted or nothing more happens, without waiting beyond a
limit if there is one. -/
def runUntil (limit : Option Nat) (wanted : Schedule interface World Result → Bool) :
    (fuel : Nat) → Schedule interface World Result → Schedule interface World Result
  | 0, schedule => schedule
  | fuel + 1, schedule =>
    let schedule := settle surroundings runFuel schedule
    if wanted schedule then schedule
    else
      match schedule.nextWake? with
      | none => schedule
      | some instant =>
        if limit.all (instant ≤ ·) then runUntil limit wanted fuel { schedule with now := instant }
        else schedule

/-- Lets some time pass. -/
def sleep (schedule : Schedule interface World Result) (durationMs : Nat) :
    Schedule interface World Result :=
  let limit := schedule.now + durationMs
  { runUntil surroundings (some limit) (fun _ => false) runFuel schedule with now := limit }

/-- Runs a program to its result, if it comes to one, without waiting beyond a limit if there is
one. -/
def performWithin (limit : Option Nat) (schedule : Schedule interface World Result)
    (signal : Option StopSignal) (program : Program interface Result) :
    Schedule interface World Result × Option Result :=
  let id := schedule.nextId
  let result? (schedule : Schedule interface World Result) : Option Result :=
    (schedule.results.find? (·.1 == id)).map (·.2)
  let ran := runUntil surroundings limit (fun schedule => (result? schedule).isSome) runFuel
    (schedule.add signal program)
  match result? ran with
  | some result => (ran, some result)
  | none => ({ ran with now := limit.getD ran.now }, none)

/-- Runs a program to its result, if it comes to one. -/
def perform (schedule : Schedule interface World Result) (signal : Option StopSignal)
    (program : Program interface Result) : Schedule interface World Result × Option Result :=
  performWithin surroundings none schedule signal program

/-- The calls that have been answered, the oldest first, with their instants. -/
def calls (schedule : Schedule interface World Result) :
    List (Nat × (call : interface.Call) × interface.Answer call) :=
  schedule.history.reverse.filterMap fun
    | (instant, .answered call answer) => some (instant, ⟨call, answer⟩)
    | (_, .logged _) => none

/-- The entries that have been logged, the oldest first. -/
def log (schedule : Schedule interface World Result) : List LogEntry :=
  schedule.history.reverse.filterMap fun
    | (_, .logged entry) => some entry
    | (_, .answered _ _) => none

end Schedule

end SwapLedger
