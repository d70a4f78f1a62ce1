import SwapLedger.Text.Percent

/-!
# Hosts of URLs

A host is a name or an address. Which names there are hangs on the scheme: the schemes of the web
read names that end in a number as addresses of version 4, other schemes take names as they are.
-/

namespace SwapLedger

/-- Why a text is no URL. -/
inductive UrlFault where
  /-- There is no scheme. -/
  | relative
  | emptyHost
  | badPort
  | badIpv4
  | badIpv6
  /-- A character that no host may contain. -/
  | badCharacter
  /-- A name that cannot be a name of the web. -/
  | badName
  deriving DecidableEq

/-- The fault in words. -/
def UrlFault.message : UrlFault → String
  | .relative => "relative URL without a base"
  | .emptyHost => "empty host"
  | .badPort => "invalid port number"
  | .badIpv4 => "invalid IPv4 address"
  | .badIpv6 => "invalid IPv6 address"
  | .badCharacter => "invalid domain character"
  | .badName => "invalid international domain name"

/-- Where a URL leads. -/
inductive UrlHost where
  | named (name : String)
  | ipv4 (address : Nat)
  /-- Eight numbers of 16 bits. -/
  | ipv6 (pieces : List Nat)
  deriving DecidableEq

namespace UrlHost

/-- The number that digits write. -/
def number (base : Nat) (digits : List Char) : Nat :=
  digits.foldl (fun total digit => total * base + ((Text.hexDigit? digit).getD 0)) 0

/-- One of the four numbers of an address, without leading zeros. -/
def octet? (digits : List Char) : Option Nat :=
  let isPlain := digits.all Char.isDigit && (digits.head? != some '0' || digits == ['0'])
  if digits ≠ [] ∧ isPlain ∧ number 10 digits < 256 then some (number 10 digits) else none

/-- Four numbers with points between them. -/
def octets? (text : List Char) : Option (List Nat) := do
  let octets ← (Text.pieces '.' text).mapM octet?
  if octets.length = 4 then return octets else none

/-- Up to four hexadecimal digits. -/
def piece? (digits : List Char) : Option Nat :=
  let isDigit (digit : Char) : Bool := (Text.hexDigit? digit).isSome
  if digits ≠ [] ∧ digits.length ≤ 4 ∧ digits.all isDigit then some (number 16 digits) else none

/-- Numbers with colons between them; the last two may be written as four with points. -/
def pieces? (last : Bool) (text : List Char) : Option (List Nat) :=
  let groups := Text.pieces ':' text
  if text = [] then some []
  else if last ∧ (groups.getLastD []).contains '.' then do
    let pieces ← groups.dropLast.mapM piece?
    match octets? (groups.getLastD []) with
    | some [a, b, c, d] => return pieces ++ [a * 256 + b, c * 256 + d]
    | _ => none
  else groups.mapM piece?

/-- What stands before the first two colons in a row, and what behind them. -/
def gap? : List Char → Option (List Char × List Char)
  | ':' :: ':' :: rest => some ([], rest)
  | character :: rest => (gap? rest).map fun (before, behind) => (character :: before, behind)
  | [] => none

/-- The eight numbers of an address of version 6. Two colons in a row stand for as many zeros as are
missing, at least one. -/
def ipv6Pieces? (text : List Char) : Option (List Nat) := do
  match gap? text with
  | none =>
    let pieces ← pieces? true text
    if pieces.length = 8 then return pieces else none
  | some (before, behind) =>
    let before ← pieces? false before
    let behind ← pieces? true behind
    let missing := 8 - (before.length + behind.length)
    if missing = 0 then none else return before ++ List.replicate missing 0 ++ behind

/-- Whether a text is an address of either version. -/
def isAddress (text : List Char) : Bool := (octets? text).isSome || (ipv6Pieces? text).isSome

/-- An address in brackets. -/
def ofBracketed (text : List Char) : Except UrlFault UrlHost :=
  match text.getLast?, ipv6Pieces? ((text.drop 1).dropLast) with
  | some ']', some pieces => .ok (.ipv6 pieces)
  | _, _ => .error .badIpv6

/-- The characters that no host may contain as such. -/
def forbidden : List Char :=
  ['\x00', '\t', '\n', '\r', ' ', '#', '/', ':', '<', '>', '?', '@', '[', '\\', ']', '^', '|']

/-- A host of a scheme that takes names as they are. -/
def ofOpaque (text : List Char) : Except UrlFault UrlHost :=
  if text.head? = some '[' then ofBracketed text
  else if text.any forbidden.contains then .error .badCharacter
  else .ok (.named (String.ofList text))

/-- A part of an address of version 4, in decimal, octal or hexadecimal; nothing beyond 32 bits. -/
def ipv4Part? (text : List Char) : Option (Option Nat) :=
  let (base, digits) := match text with
    | '0' :: 'x' :: digits | '0' :: 'X' :: digits => (16, digits)
    | '0' :: digit :: digits => (8, digit :: digits)
    | digits => (10, digits)
  let isDigit (digit : Char) : Bool := (Text.hexDigit? digit).any (decide <| · < base)
  if text = [] ∨ ¬ digits.all isDigit then none
  else if number base digits < UInt32.size then some (some (number base digits))
  else some none

/-- The parts of a name, a point at its end left out. -/
def labels (name : List Char) : List (List Char) :=
  let labels := Text.pieces '.' name
  if 1 < labels.length ∧ labels.getLastD [] = [] then labels.dropLast else labels

/-- Whether a name ends in a number, so that it has to be an address of version 4. -/
def endsInNumber (name : List Char) : Bool :=
  let last := (labels name).getLastD []
  last ≠ [] && (last.all Char.isDigit || (ipv4Part? last).isSome)

/-- The address of version 4 that a name writes; its last part fills all bytes that are left. -/
def ipv4? (name : List Char) : Option Nat := do
  let parts ← (labels name).mapM fun part => (ipv4Part? part).join
  let last := parts.getLastD 0
  let others := parts.dropLast
  if 3 < others.length ∨ Nat.pow 256 (4 - others.length) ≤ last ∨
      others.any (decide <| 255 < ·) then none
  else
    let shifted := others.zipIdx.map fun (part, index) => part * Nat.pow 256 (3 - index)
    return shifted.foldl (· + ·) last

/-- The characters that no name of the web may contain. -/
def forbiddenInName : List Char :=
  ['%', '#', '/', ':', '<', '>', '?', '@', '[', '\\', ']', '^', '|', '\x7f']

/-- A host of a scheme of the web. -/
def ofWeb (text : List Char) : Except UrlFault UrlHost :=
  if text.head? = some '[' then ofBracketed text
  else
    match Text.ofUtf8 (Text.percentDecoded text) with
    | .error _ => .error .badName
    | .ok name =>
      let name := name.toList.map Char.toLower
      let isForbidden (character : Char) : Bool :=
        decide (character.toNat ≤ 0x20) || forbiddenInName.contains character
      if name.any isForbidden then .error .badName
      else if endsInNumber name then ((ipv4? name).map .ipv4).elim (.error .badIpv4) .ok
      else .ok (.named (String.ofList name))

/-- Where the first longest run of zeros begins and how long it is. -/
def longestZeros (pieces : List Nat) : Nat × Nat :=
  (List.range pieces.length).foldl (fun (start, length) index =>
    let run := ((pieces.drop index).takeWhile (· == 0)).length
    if length < run then (index, run) else (start, length)) (0, 0)

/-- Numbers in hexadecimal with colons between them. -/
def joined (pieces : List Nat) : String :=
  String.intercalate ":" (pieces.map fun piece => String.ofList (Nat.toDigits 16 piece))

/-- The host in its shortest form. -/
def toText : UrlHost → String
  | .named name => String.ofList (Text.percentEncoded [] name.toList)
  | .ipv4 address =>
    String.intercalate "."
      ([3, 2, 1, 0].map fun place => toString (address / Nat.pow 256 place % 256))
  | .ipv6 pieces =>
    let (start, length) := longestZeros pieces
    if length < 2 then "[" ++ joined pieces ++ "]"
    else "[" ++ joined (pieces.take start) ++ "::" ++ joined (pieces.drop (start + length)) ++ "]"

end UrlHost

end SwapLedger
