import SwapLedger.Settings.Environment
import SwapLedger.Text.Alphanumeric

/-!
# Environment files

A file of variables, one assignment to a line. Values may be quoted: nothing in single quotes has a
meaning, while in double quotes and without quotes a backslash escapes the next character and a
dollar sign inserts a variable. A quoted value may go on over several lines. Whatever is set already
keeps its value, and from the first line that cannot be understood on, the file is passed over.
-/

namespace SwapLedger

namespace EnvironmentFile

/-- Where a reader of lines is. -/
inductive LineState where
  | plain
  | blank
  | escaped
  | inSingle
  | inSingleEscaped
  | inDouble
  | inDoubleEscaped
  deriving DecidableEq

namespace LineState

/-- The state outside of quotes after a character. -/
def opened : Char → LineState
  | '\\' => .escaped
  | '"' => .inDouble
  | '\'' => .inSingle
  | _ => .plain

/-- The state after a character. -/
def next (character : Char) : LineState → LineState
  | .plain =>
    if Text.isBlank character ∧ character ≠ '\n' ∧ character ≠ '\r' then .blank
    else opened character
  | .blank => opened character
  | .escaped => .plain
  | .inDouble =>
    if character = '\\' then .inDoubleEscaped else if character = '"' then .plain else .inDouble
  | .inDoubleEscaped => .inDouble
  | .inSingle =>
    if character = '\\' then .inSingleEscaped else if character = '\'' then .plain else .inSingle
  | .inSingleEscaped => .inSingle

end LineState

/-- The text up to a comment, which begins with a hash behind a blank, or the state at the end. -/
def scan : LineState → List Char → List Char ⊕ LineState
  | state, [] => .inr state
  | state, character :: rest =>
    if state = .blank ∧ character = '#' then .inl []
    else
      match scan (state.next character) rest with
      | .inl before => .inl (character :: before)
      | .inr state => .inr state

/-- The lines of a text, with their ends. -/
def physicalLines (text : List Char) : List (List Char) :=
  let pieces := Text.pieces '\n' text
  (pieces.dropLast.map (· ++ ['\n']) ++ [pieces.getLastD []]).filter (· ≠ [])

/-- A line without its end. -/
def withoutEnd (line : List Char) : List Char :=
  match line.reverse with
  | '\n' :: '\r' :: rest => rest.reverse
  | '\n' :: rest => rest.reverse
  | _ => line

/-- The lines of a file in which quoted values are kept together and comments are gone; nothing
stands for an end in the middle of a line. -/
def logicalLines : (begun : List Char) → LineState → List (List Char) → List (Option (List Char))
  | _, .plain, [] => []
  | _, _, [] => [none]
  | begun, state, line :: rest =>
    let whole := begun ++ line
    if (whole.dropWhile Text.isBlank).head? = some '#' then
      some [] :: logicalLines [] .plain rest
    else
      match scan state line with
      | .inl before => some (begun ++ before) :: logicalLines [] .plain rest
      | .inr .plain => some (withoutEnd whole) :: logicalLines [] .plain rest
      | .inr state => logicalLines whole state rest

/-- What a reader of values is in the middle of. -/
inductive ValueState where
  | plain
  | inSingle
  | inDouble
  /-- Behind a backslash. -/
  | escaped (inDouble : Bool)
  /-- In the name of a variable, reversed, without braces or with them. -/
  | name (inDouble braced : Bool) (read : List Char)
  /-- Behind the value, where only blanks and a comment may follow. -/
  | over

variable (environment : Environment)

/-- The value of a variable whose name was read backwards; one that is not set counts as empty. -/
def inserted (read : List Char) : List Char :=
  ((environment.value? (String.ofList read.reverse)).getD "").toList

/-- Whether a value may follow quotes that are open. -/
def resumed (inDouble : Bool) : ValueState := if inDouble then .inDouble else .plain

/-- Reads a value that has been read in part; what has been read is reversed. -/
def value? : ValueState → (read : List Char) → List Char → Option String
  | .plain, read, [] => some (String.ofList read.reverse)
  | .over, read, [] => some (String.ofList read.reverse)
  | .escaped false, read, [] => some (String.ofList read.reverse)
  | .name false false name, read, [] =>
    some (String.ofList (read.reverse ++ inserted environment name))
  | _, _, [] => none
  | .over, read, character :: rest =>
    if character = ' ' ∨ character = '\t' then value? .over read rest
    else if character = '#' then some (String.ofList read.reverse)
    else none
  | .escaped inDouble, read, character :: rest =>
    if character = 'n' then value? (resumed inDouble) ('\n' :: read) rest
    else if ['\\', '\'', '"', '$', ' '].contains character then
      value? (resumed inDouble) (character :: read) rest
    else none
  | .inSingle, read, character :: rest =>
    if character = '\'' then value? .plain read rest else value? .inSingle (character :: read) rest
  | .name inDouble true name, read, character :: rest =>
    if character = '\x7d' then
      value? (resumed inDouble) ((inserted environment name).reverse ++ read) rest
    else value? (.name inDouble true (character :: name)) read rest
  | .name inDouble false name, read, character :: rest =>
    if Text.isAlphanumeric character then
      value? (.name inDouble false (character :: name)) read rest
    else if character = '\x7b' ∧ name = [] then value? (.name inDouble true []) read rest
    else
      let read := (inserted environment name).reverse ++ read
      if character = '$' then value? (.name inDouble false []) read rest
      else value? (resumed inDouble) (character :: read) rest
  | .inDouble, read, character :: rest =>
    if character = '$' then value? (.name true false []) read rest
    else if character = '"' then value? .plain read rest
    else if character = '\\' then value? (.escaped true) read rest
    else value? .inDouble (character :: read) rest
  | .plain, read, character :: rest =>
    if character = '$' then value? (.name false false []) read rest
    else if character = '\'' then value? .inSingle read rest
    else if character = '"' then value? .inDouble read rest
    else if character = '\\' then value? (.escaped false) read rest
    else if character = ' ' ∨ character = '\t' then value? .over read rest
    else value? .plain (character :: read) rest

/-- Reads the name of a variable. -/
def name? (text : List Char) : Option (String × List Char) :=
  let isName (character : Char) : Bool :=
    character.isAlphanum || character == '_' || character == '.'
  match text with
  | first :: _ =>
    if first.isAlpha ∨ first = '_' then
      some (String.ofList (text.takeWhile isName), (text.dropWhile isName).dropWhile Text.isBlank)
    else none
  | [] => none

/-- What follows an equals sign. -/
def behindEquals? : List Char → Option (List Char)
  | '=' :: rest => some (rest.dropWhile Text.isBlank)
  | _ => none

/-- Reads an assignment without the word that may stand before it. -/
def assignment? (text : List Char) : Option (String × List Char) := do
  let (name, rest) ← name? text
  return (name, ← behindEquals? rest)

/-- Reads the name and the written value of an assignment; the word `export` may stand before it. -/
def exported? (text : List Char) : Option (String × List Char) := do
  let (name, rest) ← name? text
  if name = "export" ∧ rest.head? ≠ some '=' then assignment? rest else assignment? text

/-- Whether a text holds nothing more. -/
def isOver (text : List Char) : Bool := text.isEmpty || text.head? == some '#'

/-- The environment after a line, if the line can be understood. -/
def afterLine? (line : List Char) : Option Environment :=
  let text := Text.trimmed line
  if isOver text then some environment
  else do
    let (name, written) ← exported? text
    let value ← if isOver written then some "" else value? environment .plain [] written
    if (environment.value? name).isSome then return environment
    else return ⟨environment.entries ++ [(name, value)]⟩

/-- The environment after some lines, up to the first that cannot be understood. -/
def afterLines (environment : Environment) : List (Option (List Char)) → Environment
  | some line :: rest =>
    match afterLine? environment line with
    | some next => afterLines next rest
    | none => environment
  | _ => environment

/-- The environment together with the variables of a file. -/
def load (text : String) : Environment :=
  let characters := match text.toList with
    | '\uFEFF' :: rest => rest
    | characters => characters
  afterLines environment (logicalLines [] .plain (physicalLines characters))

end EnvironmentFile

end SwapLedger
