import SwapLedger.Url.Host

/-!
# URLs

The parts of a URL. Blanks at its ends and line breaks within it count for nothing. The schemes of
the web have a host in any case and take backslashes for slashes. Segments of a path that lead
upwards are resolved.
-/

namespace SwapLedger

/-- A URL. What may be encoded in it is kept as it was written. -/
structure Url where
  /-- The scheme, in small letters. -/
  scheme : String
  username : List Char
  password : List Char
  /-- Whether there is a place for a host, even if none stands there. -/
  hasAuthority : Bool
  host : Option UrlHost
  /-- The port, unless it is the one that belongs to the scheme. -/
  port : Option Nat
  path : List Char
  query : Option (List Char)
  fragment : Option (List Char)
  deriving DecidableEq

namespace Url

/-- The schemes of the web, with the ports that belong to them. -/
def webPorts : List (String × Nat) :=
  [("http", 80), ("https", 443), ("ws", 80), ("wss", 443), ("ftp", 21)]

/-- Whether a scheme is one of the web. -/
def isWeb (scheme : String) : Bool := webPorts.any (·.1 == scheme)

/-- The characters of a text without blanks at its ends and line breaks within it. -/
def clean (text : String) : List Char :=
  let isEdge (character : Char) : Bool := decide (character.toNat ≤ 0x20)
  let trimmed := (text.toList.dropWhile isEdge).reverse.dropWhile isEdge
  trimmed.reverse.filter fun character => ! ['\t', '\n', '\r'].contains character

/-- The scheme and what follows it. -/
def scheme? (characters : List Char) : Option (String × List Char) :=
  let isPart (character : Char) : Bool :=
    character.isAlphanum || ['+', '-', '.'].contains character
  match characters.takeWhile isPart, characters.dropWhile isPart with
  | first :: scheme, ':' :: rest =>
    if first.isAlpha then some (String.ofList ((first :: scheme).map Char.toLower), rest) else none
  | _, _ => none

/-- The part up to any of some characters, and the part from there. -/
def splitAtAny (stops characters : List Char) : List Char × List Char :=
  (characters.takeWhile (! stops.contains ·), characters.dropWhile (! stops.contains ·))

/-- The part up to a colon that is not in brackets, and the part from there. -/
def splitHost : (inside : Bool) → List Char → List Char × List Char
  | _, [] => ([], [])
  | inside, character :: rest =>
    if character = ':' ∧ inside = false then ([], character :: rest)
    else
      let (host, behind) := splitHost (character = '[' ∨ (inside ∧ character ≠ ']')) rest
      (character :: host, behind)

/-- Whether a segment of a path stands for the place itself. -/
def isHere (segment : List Char) : Bool :=
  [".", "%2e"].contains (String.ofList (segment.map Char.toLower))

/-- Whether a segment of a path leads upwards. -/
def isUpwards (segment : List Char) : Bool :=
  ["..", ".%2e", "%2e.", "%2e%2e"].contains (String.ofList (segment.map Char.toLower))

/-- The segments of a path after those that lead upwards have been followed; `kept` holds the
segments so far, last first. -/
def resolved : (kept : List (List Char)) → List (List Char) → List (List Char)
  | kept, [] => kept.reverse
  | kept, segment :: rest =>
    let ended (kept : List (List Char)) := if rest = [] then [] :: kept else kept
    if isUpwards segment then resolved (ended kept.tail) rest
    else if isHere segment then resolved (ended kept) rest
    else resolved (segment :: kept) rest

/-- A path from its root. -/
def rooted (text : List Char) : List Char :=
  let text := if text.head? = some '/' then text.drop 1 else text
  (resolved [] (Text.pieces '/' text)).flatMap fun segment => '/' :: segment

/-- The URL with what follows its authority: a path, a query and a fragment. -/
def withRest (url : Url) (path tail : List Char) : Url :=
  let (query, tail) := match tail with
    | '?' :: rest =>
      let (query, tail) := splitAtAny ['#'] rest
      (some query, tail)
    | tail => (none, tail)
  let fragment := if tail.isEmpty then none else some (tail.drop 1)
  { url with path, query, fragment }

/-- The user and the password before the last at sign of an authority, and the rest. -/
def credentials (authority : List Char) : Option (List Char) × List Char :=
  if authority.contains '@' then
    let rest := (authority.reverse.takeWhile (· != '@')).reverse
    (some (authority.take (authority.length - rest.length - 1)), rest)
  else (none, authority)

/-- Reads the number of a port, which one of some characters may end. -/
def readPort (scheme : String) (text : List Char) : Except UrlFault (Option Nat × List Char) :=
  let (digits, rest) := text.span Char.isDigit
  let number := UrlHost.number 10 digits
  if 65535 < number ∨ (rest ≠ [] ∧ ¬ ['/', '\\', '?', '#'].contains (rest.headD '/')) then
    .error .badPort
  else if digits = [] ∨ webPorts.contains (scheme, number) then .ok (none, rest)
  else .ok (some number, rest)

/-- Reads what follows the two slashes in front of an authority. -/
def ofAuthority (scheme : String) (text : List Char) : Except UrlFault Url := do
  let isWeb := isWeb scheme
  let stops := if isWeb then ['/', '\\', '?', '#'] else ['/', '?', '#']
  let (authority, behind) := splitAtAny stops text
  let (user, authority) := credentials authority
  if user = some [] ∧ authority = [] ∧ behind ≠ [] then throw .emptyHost
  let (name, rest) := splitHost false authority
  if name = [] ∧ (isWeb ∨ rest ≠ []) then throw .emptyHost
  let host ← if isWeb then UrlHost.ofWeb name else UrlHost.ofOpaque name
  let (port, rest) ← readPort scheme (rest.drop 1 ++ behind)
  let user := user.getD []
  if name = [] ∧ user ≠ [] ∧ user ≠ [':'] then throw .emptyHost
  let (username, password) := splitAtAny [':'] user
  let host := if name = [] then none else some host
  let url : Url := ⟨scheme, username, password.drop 1, true, host, port, [], none, none⟩
  let (path, tail) := splitAtAny ['?', '#'] rest
  if isWeb then
    let path := path.map fun character => if character = '\\' then '/' else character
    return url.withRest (rooted path) tail
  else return url.withRest (if path = [] then [] else rooted path) tail

/-- Reads a URL. -/
def parse (text : String) : Except UrlFault Url :=
  match scheme? (clean text) with
  | none => .error .relative
  | some (scheme, rest) =>
    if isWeb scheme then ofAuthority scheme (rest.dropWhile ['/', '\\'].contains)
    else
      match rest with
      | '/' :: '/' :: rest => ofAuthority scheme rest
      | rest =>
        let (path, tail) := splitAtAny ['?', '#'] rest
        let url : Url := ⟨scheme, [], [], false, none, none, [], none, none⟩
        .ok (url.withRest (if path.head? = some '/' then rooted path else path) tail)

/-- The characters that are encoded in a fragment. -/
def encodedInFragment : List Char := [' ', '"', '<', '>', '`']

/-- The characters that are encoded in a path. -/
def encodedInPath : List Char := encodedInFragment ++ ['#', '?', '\x7b', '\x7d']

/-- The characters that are encoded in a query. -/
def encodedInQuery : List Char := [' ', '"', '#', '<', '>', '\'']

variable (url : Url)

/-- The URL in its normal form, without user and password. A path that begins with two slashes is
kept from being read as a host. -/
def toText : String :=
  let port := url.port.elim "" fun port => ":" ++ toString port
  let authority :=
    if url.hasAuthority then "//" ++ url.host.elim "" UrlHost.toText ++ port
    else if url.path.take 2 = ['/', '/'] then "/."
    else ""
  let part (mark : String) (encoded : List Char) (text : Option (List Char)) : String :=
    text.elim "" fun text => mark ++ String.ofList (Text.percentEncoded encoded text)
  url.scheme ++ ":" ++ authority ++ part "" encodedInPath (some url.path) ++
    part "?" encodedInQuery url.query ++ part "#" encodedInFragment url.fragment

end Url

end SwapLedger
