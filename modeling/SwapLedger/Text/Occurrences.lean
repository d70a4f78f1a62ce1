/-!
# Occurrences

Where a pattern occurs in a text, searched for from left to right. Once it is found, the search goes
on behind it, so an occurrence that overlaps with one found before is passed over. An empty pattern
occurs in front of every character and at the end.
-/

namespace SwapLedger

namespace Text

/-- The places where a pattern is found in what remains of a text from `place` on, after `passed`
more characters. -/
def occurrencesFrom (pattern : List Char) : (place passed : Nat) → List Char → List Nat
  | place, 0, [] => if pattern = [] then [place] else []
  | _, _ + 1, [] => []
  | place, 0, character :: rest =>
    if pattern.isPrefixOf (character :: rest) then
      place :: occurrencesFrom pattern (place + 1) (pattern.length - 1) rest
    else occurrencesFrom pattern (place + 1) 0 rest
  | place, passed + 1, _ :: rest => occurrencesFrom pattern (place + 1) passed rest

/-- The places where a pattern is found in a text. -/
def occurrences (pattern text : List Char) : List Nat := occurrencesFrom pattern 0 0 text

end Text

end SwapLedger
