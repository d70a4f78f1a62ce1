import SwapLedger.Rehearsal.Order
import SwapLedger.Rehearsal.Outside.Journal

/-!
# Consumers

Consumers that wait for a delivery of a queue in the database. Each has a signal of its own, by which
it is sent away.
-/

namespace SwapLedger

namespace Rehearsal

/-- A consumer that waits. -/
structure Consumer where
  name : Json
  task : Nat

namespace Consumer

/-- The signal of a consumer. -/
def signal (consumer : Consumer) : StopSignal := .worker consumer.task

/-- How often a consumer asks at most. -/
def patience : Nat := 100000000

/-- Asks a queue until it has a delivery or fails, or the consumer is sent away. -/
def program (queue : TableQueue) : (fuel : Nat) → Program Wire Json
  | 0 => return .null
  | fuel + 1 => do
    match ← queue.consume with
    | .ok (some delivery) => return delivery.toJson
    | .error failure => return failure.toJson
    | .ok none => if ← .stopRequested then return .null else program queue fuel

end Consumer

namespace OuterRun

variable (run : OuterRun)

/-- The run with one more consumer that waits. -/
def joinedBy (configuration : Configuration) (queue : TableQueue) (name : Json) :
    OuterRun × Consumer :=
  let consumer : Consumer := ⟨name, run.nextId⟩
  let added := Schedule.add run (some consumer.signal) (Consumer.program queue Consumer.patience)
  (settled added configuration, consumer)

/-- Consumes a delivery, if one comes within some time. -/
def consumed (configuration : Configuration) (queue : TableQueue) (patienceMs : Nat) :
    OuterRun × Json :=
  let consumer : Consumer := ⟨.null, run.nextId⟩
  let (run, result) := Schedule.performWithin (outerSurroundings configuration)
    (some (run.now + patienceMs)) run (some consumer.signal)
    (Consumer.program queue Consumer.patience)
  match result with
  | some result => (run, result)
  | none => (signalled run configuration consumer.signal, .string "timeout")

/-- Sends a consumer away. -/
def withoutConsumer (configuration : Configuration) (consumers : List Consumer) (name : Json) :
    OuterRun × List Consumer :=
  let leaving := consumers.filter (·.name == name)
  (leaving.foldl (fun run consumer => signalled run configuration consumer.signal) run,
    consumers.filter (·.name != name))

/-- The consumers that still wait, and what the others got. -/
def served (consumers : List Consumer) : List Consumer × Json :=
  let result? (consumer : Consumer) := (run.results.find? (·.1 == consumer.task)).map (·.2)
  (consumers.filter fun consumer => (result? consumer).isNone,
    .array (consumers.filterMap fun consumer =>
      (result? consumer).map fun result => .array [consumer.name, result]))

end OuterRun

end Rehearsal

end SwapLedger
