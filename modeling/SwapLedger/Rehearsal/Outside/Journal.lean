import SwapLedger.Rehearsal.Journal
import SwapLedger.Rehearsal.Outside
import SwapLedger.Tables.Json

/-!
# Journals of the outer world

What is noted of programs that run among a scripted database and scripted nodes: the statements that
are executed, and the requests that reach a node.
-/

namespace SwapLedger

namespace Rehearsal

/-- A run of programs in a scripted outer world. -/
abbrev OuterRun := Schedule Wire Outside Json

namespace OuterRun

/-- A run in which nothing has happened. -/
def start (outside : Outside) : OuterRun := Schedule.initial outside

variable (run : OuterRun)

/-- The run with its journal begun anew. -/
def renewed : OuterRun := { run with history := [] }

/-- The run with a change of the outer world. -/
def changed (change : Outside → Outside) : OuterRun := { run with world := change run.world }

/-- The run with a change of the database. -/
def changedServer (change : Server → Server) : OuterRun :=
  run.changed fun outside => { outside with server := change outside.server }

/-- The statements that have been executed, with their instants. -/
def statements : List (Nat × Statement) :=
  run.calls.filterMap fun
    | (instant, ⟨.database (.execute statement), _⟩) => some (instant, statement)
    | _ => none

/-- What is noted of the statements, with their instants; long ones are noted in brief. -/
def statementNotes (limit : Option Nat) : List (Nat × Json) :=
  run.statements.map fun (instant, statement) => (instant, statement.brief limit)

/-- What is noted of the statements, without their instants. -/
def bareStatements (limit : Option Nat) : Json := .ofList (·.2) (run.statementNotes limit)

/-- What is noted of the statements, with their instants. -/
def timedStatements (limit : Option Nat) : Json := .ofList timed (run.statementNotes limit)

/-- The requests that have reached a node, with their instants. -/
def requests : List (Nat × NodeRequest) :=
  run.calls.filterMap fun
    | (_, ⟨.node _, .unreachable⟩) => none
    | (instant, ⟨.node request, _⟩) => some (instant, request)
    | _ => none

/-- What is noted of the requests: method and parameters, with the instants. -/
def timedRequests : Json :=
  .ofList (fun (instant, request) =>
    timed (instant, .array [.string request.method, .array request.params])) run.requests

/-- What is noted of the requests: method, number of the node, and what is asked for. -/
def requestNotes : List Json :=
  run.requests.map fun (_, request) =>
    let port? := Outside.nodePort? request.url
    let node := Json.ofNat (run.world.nodes.findIdx (some ·.1 == port?))
    let asked := if request.method = "getSlot" then [] else request.params.take 1
    named request.method (node :: asked)

/-- All tables. Of more swaps than the limit, if there is one, only the number is told. -/
def tables (limit : Option Nat) : Json := run.world.server.tables.toJson limit

/-- Runs a program to its result. -/
def perform (configuration : Configuration) (signal : Option StopSignal)
    (program : Program Wire Json) : OuterRun × Json :=
  let (run, result) := Schedule.perform (outerSurroundings configuration) run signal program
  (run, result.getD .null)

/-- Runs all programs until they wait. -/
def settled (configuration : Configuration) : OuterRun :=
  Schedule.settle (outerSurroundings configuration) Schedule.runFuel run

/-- Lets some time pass. -/
def slept (configuration : Configuration) (durationMs : Nat) : OuterRun :=
  Schedule.sleep (outerSurroundings configuration) run durationMs

/-- Gives a signal. -/
def signalled (configuration : Configuration) (signal : StopSignal) : OuterRun :=
  settled (run.changed fun outside => { outside with shared := outside.shared.giveSignal signal })
    configuration

end OuterRun

end Rehearsal

end SwapLedger
