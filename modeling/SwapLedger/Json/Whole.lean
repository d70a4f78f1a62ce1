import SwapLedger.Json.Reader

/-!
# Whole values

A reader that takes what it needs from a text may pass over the rest. A value that is kept as it is
has to be readable in all its parts; of members of one name such a value keeps the last.
-/

namespace SwapLedger

namespace Json

mutual

/-- Whether every part of a value can be read. -/
def isWhole : Json → Bool
  | .null | .bool _ | .integer _ | .string _ => true
  | .real value => value.isFinite
  | .array items => areWhole items
  | .object members => areMembersWhole members
  | .unreadable => false

/-- Whether every part of some items can be read. -/
def areWhole : List Json → Bool
  | [] => true
  | item :: rest => item.isWhole && areWhole rest

/-- Whether every part of some members can be read. -/
def areMembersWhole : List (String × Json) → Bool
  | [] => true
  | (_, value) :: rest => value.isWhole && areMembersWhole rest

end

/-- A value that can be read in all its parts. -/
def whole? (json : Json) : Option Json := if json.isWhole then some json else none

mutual

/-- The value in which of members of one name only the last is left. -/
def settled : Json → Json
  | .array items => .array (settledItems items)
  | .object members => .object (settledMembers members)
  | json => json

/-- Items in which of members of one name only the last is left. -/
def settledItems : List Json → List Json
  | [] => []
  | item :: rest => item.settled :: settledItems rest

/-- The members whose names do not occur again. -/
def settledMembers : List (String × Json) → List (String × Json)
  | [] => []
  | (name, value) :: rest =>
    if rest.any (·.1 == name) then settledMembers rest
    else (name, value.settled) :: settledMembers rest

end

/-- The value a text writes, if it can be kept as it is. -/
def parseWhole? (text : String) : Option Json := do
  return (← (← parse? text).whole?).settled

end Json

end SwapLedger
