/-!
# Redaction of addresses

The address of a service may carry a key. Before it is logged, the value behind `api-key=` is
blotted out, up to the next parameter.
-/

namespace SwapLedger

namespace Redaction

/-- What stands in front of a key. -/
def marker : List Char := "api-key=".toList

/-- What stands in place of a key. -/
def blot : List Char := "[REDACTED]".toList

/-- The address from the value of a parameter on, without the value. -/
def afterValue (characters : List Char) : List Char := characters.dropWhile (· ≠ '&')

/-- The characters of an address with the first key blotted out. -/
def redactedCharacters : List Char → List Char
  | [] => []
  | character :: rest =>
    if marker.isPrefixOf (character :: rest) then
      marker ++ blot ++ afterValue ((character :: rest).drop marker.length)
    else character :: redactedCharacters rest

/-- An address with the first key blotted out. -/
def redacted (address : String) : String := String.ofList (redactedCharacters address.toList)

end Redaction

end SwapLedger
