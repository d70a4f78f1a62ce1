import SwapLedger.Address
import SwapLedger.Bytes.Hex
import SwapLedger.Sha256
import SwapLedger.Text.Occurrences

/-!
# Trade events

An exchange that moves the native currency without transfers reports its trades as events: it
invokes itself with a payload that holds a tag for events, a tag for the kind of event, and the
fields of the event. Later versions append fields, which are ignored.
-/

namespace SwapLedger

/-- A trade on a bonding curve. -/
structure TradeEvent where
  mint : Bytes
  solAmount : UInt64
  tokenAmount : UInt64
  isBuy : Bool
  user : Bytes
  deriving DecidableEq

namespace TradeEvent

/-- The payload of every self-invoked event starts with these bytes. -/
def selfInvocationTag : Bytes := [0xe4, 0x45, 0xa5, 0x2e, 0x51, 0xcb, 0x9a, 0x1d]

/-- The tag of a kind of event: the first eight bytes of the digest of its qualified name. -/
def discriminatorOf (name : String) : Bytes :=
  (Sha256.digest ("event:" ++ name).toUTF8.toList).take 8

/-- The tag of trade events. -/
def discriminator : Bytes := [189, 219, 127, 211, 78, 230, 97, 238]

example : discriminatorOf "TradeEvent" = discriminator := by decide +kernel

/-- How many bytes the fields of an event take. -/
def width : Nat := 81

/-- The fields that follow the tag; the flag is zero or one. -/
def decode? (body : Bytes) : Option TradeEvent := do
  let mint ← body.slice? 0 32
  let solAmount ← body.u64? 32
  let tokenAmount ← body.u64? 40
  let isBuy ← match ← body.u8? 48 with
    | 0 => some false
    | 1 => some true
    | _ => none
  let user ← body.slice? 49 32
  return ⟨mint, solAmount, tokenAmount, isBuy, user⟩

/-- The fields as they follow the tag. -/
def encode (event : TradeEvent) : Bytes :=
  event.mint ++ Bytes.ofUInt64 event.solAmount ++ Bytes.ofUInt64 event.tokenAmount ++
    (if event.isBuy then 1 else 0) :: event.user

/-- What follows the first tag of a trade event in a payload. The tag is searched for in the
hexadecimal digits of the payload, where it counts if it starts with the first digit of a byte. -/
def bodyIn? (payload : Bytes) : Option Bytes := do
  let tag := Bytes.hexDigits discriminator
  let place ← (Text.occurrences tag payload.hexDigits).find? fun place => place % 2 == 0
  let start := (place + tag.length) / 2
  if start ≤ payload.length then some (payload.drop start) else none

variable (event : TradeEvent)

/-- The address of the traded token. -/
def mintAddress : Address := .ofBytes event.mint

/-- The address of the trader. -/
def userAddress : Address := .ofBytes event.user

end TradeEvent

end SwapLedger
