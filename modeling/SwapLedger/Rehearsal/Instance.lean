import SwapLedger.Indexer
import SwapLedger.Rehearsal.Order
import SwapLedger.Rehearsal.Outside.Journal
import SwapLedger.Rehearsal.Outside.Script
import SwapLedger.Settings.Json

/-!
# Rehearsals of an instance

A whole instance in a scripted outer world. It is prepared, and then told what to do step by step;
after each step everything runs until it waits, and a millisecond passes.
-/

namespace SwapLedger

namespace Rehearsal

/-- An instance that is being rehearsed. -/
structure Instance where
  configuration : Configuration
  run : OuterRun
  /-- The task in which the instance runs, as long as nobody has waited for its end. -/
  running : Option Nat

namespace Instance

/-- Reads a configuration that is given by some settings, or has no nodes. -/
def configuration? (json : Json) (nodes : List String) : Option Configuration := do
  let draft := { Draft.empty with
    rpcUrls := nodes, wsUrl := some Outside.streamAddress,
    databaseUrl := some Outside.databaseAddress }
  if nodes.isEmpty then
    return ⟨[], Outside.streamAddress, Outside.databaseAddress, draft.commitment, draft.pool,
      draft.nodeRetry, draft.reconnectRetry, draft.insertRetry, draft.listener, draft.queue,
      draft.telemetry⟩
  else
    let settings ← json.fieldOr "config" [] (Json.list? some)
    match (← settings.foldlM Draft.set? draft).complete with
    | .ok configuration => return configuration
    | .error _ => none

/-- Reads an instance with its outer world. -/
def ofJson? (json : Json) : Option Instance := do
  let outside ← Outside.ofJson? json
  let nodes := (List.range outside.nodes.length).map Outside.nodeAddress
  return ⟨← configuration? json nodes, .start outside, none⟩

variable (rehearsed : Instance)

/-- Runs a program of the instance to its result. -/
def perform (program : Program Services Json) : Instance × Json :=
  let (run, result) := rehearsed.run.perform rehearsed.configuration (some .service)
    (rehearsed.configuration.deploy program)
  ({ rehearsed with run }, result)

/-- Prepares the instance. -/
def prepare : Instance × Json := rehearsed.perform (plainOutcome <$> Indexer.prepare)

/-- Lets the instance run in the background. -/
def start : Instance :=
  let program := plainOutcome <$> Indexer.start rehearsed.configuration
  { rehearsed with
    run := Schedule.add rehearsed.run (some .service) (rehearsed.configuration.deploy program),
    running := some rehearsed.run.nextId }

/-- What the running of the instance has resulted in. -/
def result? (task : Nat) : Option Json :=
  (rehearsed.run.results.find? (·.1 == task)).map (·.2)

/-- Tells the instance to stop and waits until it has. -/
def stop : Instance × Json :=
  let around := outerSurroundings rehearsed.configuration
  let signalled := rehearsed.run.signalled rehearsed.configuration .service
  match rehearsed.running with
  | none => ({ rehearsed with run := signalled }, success)
  | some task =>
    let run := Schedule.runUntil around none (fun run => run.results.any (·.1 == task))
      Schedule.runFuel signalled
    let stopped : Instance := { rehearsed with run, running := none }
    (stopped, (stopped.result? task).getD .null)

/-- The run with a change of its block stream. -/
def changedStream (run : OuterRun) (change : Stream → Stream) : OuterRun :=
  run.changed fun outside => { outside with stream := change outside.stream }

/-- Serves the next connection of the listener. One that was left open breaks off before. -/
def connect (connection : Connection) : Instance :=
  let around := outerSurroundings rehearsed.configuration
  let broken := changedStream rehearsed.run ({ · with coming := Connection.broken })
  let offered := changedStream (broken.settled rehearsed.configuration) fun _ =>
    ⟨false, some connection.content, []⟩
  let served := Schedule.runUntil around none (fun run => run.world.stream.offered.isNone)
    Schedule.runFuel offered
  let parted := changedStream served fun stream =>
    if connection.parting.isEmpty then stream else { stream with coming := connection.parting }
  { rehearsed with run := parted.settled rehearsed.configuration }

/-- What an operation on the instance leads to. -/
def operate? : List Json → Option (Instance × Json)
  | [.string "backfill", first, last] => do
    let program := Indexer.backfill rehearsed.configuration (← first.u64?) (← last.u64?)
    return rehearsed.perform (.ofOutcome BackfillReport.toJson <$> program)
  | [.string "reprocess", .string signature] =>
    let program := Indexer.reprocess rehearsed.configuration signature
    some (rehearsed.perform (.ofOutcome (.ofList SwapRecord.toJson) <$> program))
  | [.string "start"] => some (rehearsed.start, success)
  | [.string "connection", script] => do
    return (rehearsed.connect (← Connection.ofJson? script), success)
  | [.string "sleep", duration] => do
    let run := rehearsed.run.slept rehearsed.configuration (← duration.u64?).toNat
    return ({ rehearsed with run }, success)
  | [.string "kill"] =>
    some ({ rehearsed with run := rehearsed.run.changedServer Server.kill }, success)
  | [.string "shutdown"] => some rehearsed.stop
  | _ => none

/-- The batches that have been broadcast. -/
def broadcasts : List Json :=
  rehearsed.run.calls.filterMap fun
    | (_, ⟨.shared (.broadcast swaps), _⟩) => some (.ofList (fun swap => .string swap.id) swaps)
    | _ => none

/-- How often blocks have been asked for. -/
def subscriptions : Nat :=
  (rehearsed.run.calls.filter fun
    | (_, ⟨.stream (.subscribe _), _⟩) => true
    | _ => false).length

/-- The failures in the log, apart from those of the listener's connection. -/
def failures : List (List String) :=
  let known := rehearsed.run.log.filterMap fun entry =>
    match entry.fields with
    | [("context", context), ("error", reason)] =>
      if entry.level = .error ∧ context.text ≠ "Block listener" then
        some [context.text, reason.text]
      else none
    | _ => none
  known.mergeSort Tables.inOrder

/-- Whether the instance still runs, if it has been started and nobody has waited for its end. -/
def isRunning : Json :=
  .ofOption (fun task => .bool (rehearsed.result? task).isNone) rehearsed.running

/-- What has become visible since the journal was begun. -/
def report : List (String × Json) :=
  [("requests", .array (Tables.byText rehearsed.run.requestNotes)),
    ("subscribed", .ofNat rehearsed.subscriptions),
    ("broadcasts", .array (Tables.byText rehearsed.broadcasts)),
    ("errors", .ofList (.ofList .string) rehearsed.failures),
    ("tables", rehearsed.run.tables none), ("running", rehearsed.isRunning)]

/-- One step of a rehearsal: an operation, and what it makes visible. -/
def step? (operation : List Json) : Option (Instance × Json) := do
  let begun : Instance := { rehearsed with run := rehearsed.run.renewed }
  let (operated, result) ← begun.operate? operation
  let settled := operated.run.settled operated.configuration
  let after : Instance := { operated with run := settled.slept operated.configuration 1 }
  let statements :=
    match operation.head? with
    | some (.string "backfill") | some (.string "reprocess") =>
      [("calls", after.run.bareStatements none)]
    | _ => []
  return (after, .object (("result", result) :: after.report ++ statements))

end Instance

end Rehearsal

end SwapLedger
