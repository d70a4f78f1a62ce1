import SwapLedger.SlotRange
import SwapLedger.Text.Blank

/-!
# The command line

What an instance can be told to do by its arguments. Without any it runs. Flags are read from left to
right, and the first one that asks for help decides, unless something before it is wrong already;
behind two dashes nothing is a flag any more.
-/

namespace SwapLedger

/-- What an instance is told to do. -/
inductive Command where
  | run
  /-- Publish the blocks between two slots; the last slot zero stands for the newest one. -/
  | backfill (first last : Slot)
  /-- Find the swaps of a transaction anew. -/
  | reprocess (signature : String)
  deriving DecidableEq

/-- What arguments ask for. -/
inductive CommandLine where
  | perform (command : Command)
  | help
  | version
  /-- The arguments make no sense. -/
  | misuse
  deriving DecidableEq

namespace CommandLine

/-- What an argument is. -/
inductive Argument where
  /-- Two dashes alone. -/
  | separator
  | helpFlag
  | versionFlag
  | unknownFlag
  | value (text : String)
  deriving DecidableEq

namespace Argument

/-- Looks at an argument. Of several short flags in one argument the first one counts. -/
def ofText (text : String) : Argument :=
  match text.toList with
  | ['-', '-'] => .separator
  | '-' :: '-' :: _ =>
    if text = "--help" then .helpFlag else if text = "--version" then .versionFlag else .unknownFlag
  | '-' :: 'h' :: _ => .helpFlag
  | '-' :: 'V' :: _ => .versionFlag
  | '-' :: _ :: _ => .unknownFlag
  | _ => .value text

end Argument

/-- The values among the arguments of a command that all of them fit, each being told how many came
before it. A flag that asks for help decides. -/
def values? (fits : Nat → String → Bool) : (read : List String) → List String →
    Except CommandLine (List String)
  | read, [] => .ok read.reverse
  | read, text :: rest =>
    match Argument.ofText text with
    | .separator =>
      let whole := read.reverse ++ rest
      if (rest.zipIdx read.length).all fun (value, index) => fits index value then .ok whole
      else .error .misuse
    | .helpFlag => .error .help
    | .versionFlag | .unknownFlag => .error .misuse
    | .value value =>
      if fits read.length value then values? fits (value :: read) rest else .error .misuse

/-- The slot that a text writes. -/
def slot? (text : String) : Option Slot := do
  let number ← Text.natural? text.toList
  if number < UInt64.size then return .ofNat number else none

/-- Reads the arguments of a command, given which values fit and what they mean. -/
def readValues (fits : Nat → String → Bool) (meaning : List String → Option Command)
    (arguments : List String) : CommandLine :=
  match values? fits [] arguments with
  | .error decided => decided
  | .ok values => (meaning values).elim .misuse .perform

/-- Reads the arguments of a command of some name. -/
def readCommand (name : String) (arguments : List String) : CommandLine :=
  match name with
  | "run" => readValues (fun _ _ => false) (fun _ => some .run) arguments
  | "backfill" =>
    readValues (fun index value => index < 2 && (slot? value).isSome)
      (fun values => do
        match values with
        | [first] => return .backfill (← slot? first) 0
        | [first, last] => return .backfill (← slot? first) (← slot? last)
        | _ => none)
      arguments
  | "reprocess" =>
    readValues (fun index _ => index < 1)
      (fun
        | [signature] => some (.reprocess signature)
        | _ => none)
      arguments
  | "help" =>
    match arguments with
    | [] => .help
    | [topic] =>
      if ["run", "backfill", "reprocess", "help"].contains topic then .help else .misuse
    | _ => .misuse
  | _ => .misuse

/-- Reads arguments. -/
def parse : List String → CommandLine
  | [] => .perform .run
  | text :: rest =>
    match Argument.ofText text with
    | .separator => if rest.isEmpty then .perform .run else .misuse
    | .helpFlag => .help
    | .versionFlag => .version
    | .unknownFlag => .misuse
    | .value name => readCommand name rest

end CommandLine

end SwapLedger
