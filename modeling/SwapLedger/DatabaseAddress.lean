import SwapLedger.Failure
import SwapLedger.Url

/-!
# Addresses of databases

The address of a database is a URL whose query may hold further settings. Settings of the query win
over what the URL says before it, and later ones over earlier ones.
-/

namespace SwapLedger

/-- Where a database is, and how it is talked to. -/
structure DatabaseTarget where
  host : String
  port : Nat
  /-- The directory of a socket, which is used instead of the host. -/
  socket : Option String
  /-- Whether the connection has to be encrypted. -/
  encrypted : Bool
  deriving DecidableEq

namespace DatabaseTarget

/-- The port of databases. -/
def standardPort : Nat := 5432

/-- A database on this machine. -/
def standard : DatabaseTarget := ⟨"localhost", standardPort, none, false⟩

variable (target : DatabaseTarget)

/-- The target on another host; a host that begins with a slash is the directory of a socket. -/
def withHost (host : String) : DatabaseTarget :=
  if host.toList.head? = some '/' then { target with socket := some host } else { target with host }

/-- A part of a URL that must be a text. -/
def plain (part : List Char) : Except DatabaseFailure String :=
  (Text.ofUtf8 (Text.percentDecoded part)).mapError fun fault => .badAddress fault.message

/-- The words for how a connection is protected, and whether it has to be encrypted. -/
def protections : List (String × Bool) :=
  [("disable", false), ("allow", false), ("prefer", false), ("require", true), ("verify-ca", true),
    ("verify-full", true)]

/-- Reads digits; the first that is none or makes the number too large decides what is wrong. -/
def digits (bound : Nat) : (number : Nat) → List Char → Except DatabaseFailure Nat
  | number, [] => .ok number
  | number, digit :: rest =>
    let longer := number * 10 + (digit.toNat - '0'.toNat)
    if digit.isDigit = false then .error (.badAddress "invalid digit found in string")
    else if longer < bound then digits bound longer rest
    else .error (.badAddress "number too large to fit in target type")

/-- Reads a number that has to be below a bound; a plus sign may stand before it. -/
def number (bound : Nat) (text : String) : Except DatabaseFailure Nat :=
  match text.toList with
  | [] => .error (.badAddress "cannot parse integer from empty string")
  | '+' :: first :: rest => digits bound 0 (first :: rest)
  | characters => digits bound 0 characters

/-- The target after a setting of the query. -/
def withSetting (setting : String × String) : Except DatabaseFailure DatabaseTarget := do
  let (name, value) := setting
  match name with
  | "sslmode" | "ssl-mode" =>
    match protections.find? (·.1 == Text.lowercase value) with
    | some (_, encrypted) => return { target with encrypted }
    | none => throw (.badProtection value)
  | "statement-cache-capacity" =>
    let _ ← number UInt64.size value
    return target
  | "host" => return target.withHost value
  | "hostaddr" =>
    if UrlHost.isAddress value.toList then return { target with host := value }
    else throw (.badAddress "invalid IP address syntax")
  | "port" => return { target with port := ← number UInt16.size value }
  | _ => return target

/-- The target of an address. -/
def ofAddress (address : String) : Except DatabaseFailure DatabaseTarget := do
  let url ← (Url.parse address).mapError fun fault => .badAddress fault.message
  let target ← match url.host with
    | some host => standard.withHost <$> plain host.toText.toList
    | none => pure standard
  let target := { target with port := url.port.getD standardPort }
  let _ ← plain url.username
  let _ ← plain url.password
  let _ ← plain (url.path.dropWhile (· == '/'))
  (Text.formPairs (url.query.getD [])).foldlM (·.withSetting ·) target

/-- The host without the brackets in which a URL writes an address. -/
def bareHost : String :=
  let isBracket (character : Char) : Bool := character == '[' || character == ']'
  String.ofList
    ((target.host.toList.dropWhile isBracket).reverse.dropWhile isBracket).reverse

end DatabaseTarget

end SwapLedger
