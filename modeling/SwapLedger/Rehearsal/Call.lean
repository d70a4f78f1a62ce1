import SwapLedger.CommandLine.Perform
import SwapLedger.Rehearsal.Order
import SwapLedger.Rehearsal.Outside.Journal
import SwapLedger.Rehearsal.Outside.Script

/-!
# Rehearsals of calls

A call of the whole program in a scripted outer world, from its arguments and its environment to what
it leaves behind: an exit code, a complaint, the lines of the log and the tables.
-/

namespace SwapLedger

namespace Rehearsal

/-- A call of the program. -/
structure Call where
  arguments : List String
  environment : Environment
  outside : Outside
  /-- Whether the user interrupts the program as soon as it waits. -/
  interrupted : Bool

/-- What a call leaves behind. -/
structure Aftermath where
  code : Nat
  complaint : String
  /-- What is shown apart from the log. -/
  output : String
  log : List String
  run : OuterRun

namespace Call

/-- A text in which the addresses of the outer world stand for their names. -/
def withAddresses (text : String) : String :=
  ((text.replace "\x7brpc\x7d" (Outside.nodeAddress 0)).replace "\x7bws\x7d"
    Outside.streamAddress).replace "\x7bdb\x7d" Outside.databaseAddress

/-- Reads variables. -/
def assignments? : Json → Option (List (String × String))
  | .object members => members.mapM fun (name, value) => do
    return (name, withAddresses (← value.string?))
  | _ => none

/-- Reads a call. -/
def ofJson? (json : Json) : Option Call := do
  let set : Environment := ⟨← json.field "env" assignments?⟩
  let environment ← match json.member? "dotenv" with
    | some file => (file.string?).map fun text => EnvironmentFile.load set (withAddresses text)
    | none => some set
  let node ← json.fieldOr "node" (.contents [] [] []) NodeBook.ofJson?
  let outside := { ← Outside.ofJson? json with nodes := [(Outside.nodePort 0, node)] }
  return ⟨← json.field "args" (Json.list? Json.string?), environment, outside,
    ← json.fieldOr "interrupt" false Json.bool?⟩

variable (call : Call)

/-- The aftermath of a call that leads to nothing. -/
def idle (code : Nat) (complaint output : String) : Aftermath :=
  ⟨code, complaint, output, [], .start call.outside⟩

/-- The result of a command that has been performed. -/
def resultJson : Except Complaint Unit → Json
  | .ok () => success
  | .error complaint => .array [.string complaint.text]

/-- Performs a command. -/
def perform (configuration : Configuration) (command : Command) : Aftermath :=
  let around := outerSurroundings configuration
  let start : OuterRun := .start call.outside
  let id := start.nextId
  let program := configuration.deploy (resultJson <$> command.perform configuration)
  let begun : OuterRun := OuterRun.settled (Schedule.add start (some .service) program) configuration
  let begun := begun.changed fun outside =>
    { outside with shared := { outside.shared with interrupted := call.interrupted } }
  let run : OuterRun := Schedule.runUntil around none (fun run => run.results.any (·.1 == id))
    Schedule.runFuel begun
  let complaint := match run.results.find? (·.1 == id) with
    | some (_, .array [.string complaint]) => complaint
    | _ => ""
  let log := call.environment.shownEntries configuration (Schedule.log run)
  ⟨if complaint.isEmpty then 0 else 1, complaint, "", log.map (·.line), run⟩

/-- What a call leaves behind. -/
def aftermath : Aftermath :=
  match Errand.ofArguments call.environment call.arguments with
  | .tell text => call.idle 0 "" text
  | .refuse hint => call.idle 2 hint ""
  | .giveUp complaint => call.idle 1 complaint.text ""
  | .perform configuration command => call.perform configuration command

/-- The names of the statements that do not depend on how long the program runs. -/
def steadyStatements (run : OuterRun) : List String :=
  (run.statements.map (·.2.name)).filter fun name => name ≠ "claim" ∧ name ≠ "depth"

/-- Writes what a call leaves behind. The order of what happens at an interruption is left open. -/
def report : Json :=
  let after := call.aftermath
  let log := if call.interrupted then after.log.mergeSort fun left right => decide (left ≤ right)
    else after.log
  let common := [("code", Json.ofNat after.code), ("tables", after.run.tables none),
    ("requests", .array after.run.requestNotes), ("log", .ofList .string log)]
  let statements :=
    if call.interrupted then ("statements", .ofList .string (steadyStatements after.run))
    else ("calls", after.run.bareStatements none)
  let complaint := if after.code = 1 then [("stderr", Json.string after.complaint)] else []
  let output :=
    if after.output = Errand.versionText then [("stdout", Json.string after.output)] else []
  .object (common ++ [statements] ++ complaint ++ output)

end Call

end Rehearsal

end SwapLedger
