import SwapLedger.Log
import SwapLedger.Text.Alphanumeric
import SwapLedger.Text.Blank

/-!
# Log filters

A filter is a list of directives with commas in between. A directive is a level, or a source with or
without a level; a level limits the sources whose paths start with the directive's, and a source
without a level shows everything. The directive with the longest path decides. Directives that
cannot be understood are left out, and a filter without any shows failures only.
-/

namespace SwapLedger

/-- Which verbosity is shown of the sources under a path. -/
structure LogDirective where
  path : String
  verbosity : Nat
  deriving DecidableEq

namespace LogDirective

/-- The verbosity that a word or digit names; `off` is zero. -/
def verbosity? (word : String) : Option Nat :=
  let known := [("off", 0), ("error", 1), ("warn", 2), ("info", 3), ("debug", 4), ("trace", 5),
    ("0", 0), ("1", 1), ("2", 2), ("3", 3), ("4", 4), ("5", 5)]
  (known.find? fun entry => entry.1 == Text.lowercase word).map (·.2)

/-- Whether a character may stand in a path. -/
def isPathCharacter (character : Char) : Bool :=
  Text.isAlphanumeric character || ['_', ':', '-'].contains character

/-- Whether a text is a path. -/
def isPath (text : List Char) : Bool := !text.isEmpty && text.all isPathCharacter

/-- Reads a directive. -/
def parse? (text : List Char) : Option LogDirective :=
  match verbosity? (String.ofList text) with
  | some verbosity => some ⟨"", verbosity⟩
  | none =>
    match Text.pieces '=' text with
    | [path] => if isPath path then some ⟨String.ofList path, 5⟩ else none
    | [path, level] =>
      if ! isPath path then none
      else if level.isEmpty then some ⟨String.ofList path, 5⟩
      else (verbosity? (String.ofList level)).map fun verbosity => ⟨String.ofList path, verbosity⟩
    | _ => none

/-- Whether a directive is about a source. -/
def covers (directive : LogDirective) (source : LogSource) : Bool :=
  directive.path.toList.isPrefixOf source.path.toList

end LogDirective

/-- What of the log is shown. -/
structure LogFilter where
  directives : List LogDirective

namespace LogFilter

/-- Reads a filter. -/
def parse (text : String) : LogFilter :=
  match (Text.pieces ',' text.toList).filterMap LogDirective.parse? with
  | [] => ⟨[⟨"", 1⟩]⟩
  | directives => ⟨directives⟩

/-- The directive that decides about a source: the one with the longest path, and the last of
several with the same. -/
def directive? (filter : LogFilter) (source : LogSource) : Option LogDirective :=
  (filter.directives.filter (·.covers source)).foldl
    (fun best directive =>
      match best with
      | none => some directive
      | some known =>
        if directive.path.length < known.path.length then some known else some directive)
    none

/-- Whether an entry is shown. -/
def shows (filter : LogFilter) (entry : LogEntry) : Bool :=
  match filter.directive? entry.source with
  | none => false
  | some directive => decide (entry.level.verbosity ≤ directive.verbosity)

end LogFilter

end SwapLedger
