import SwapLedger.Bytes
import SwapLedger.Json.Shape
import SwapLedger.Text.Hexadecimal

/-!
# Byte strings in hexadecimal

Each byte is written as two lower-case digits. Digits of either case are read.
-/

namespace SwapLedger

namespace Bytes

/-- The digits of a byte string. -/
def hexDigits (bytes : Bytes) : List Char :=
  bytes.flatMap fun byte => [Text.hexDigit (byte.toNat / 16), Text.hexDigit (byte.toNat % 16)]

/-- The text of a byte string. -/
def toHex (bytes : Bytes) : String := String.ofList bytes.hexDigits

/-- The byte string that digits write. -/
def ofHexDigits? : List Char → Option Bytes
  | [] => some []
  | high :: low :: rest => do
    let high ← Text.hexDigit? high
    let low ← Text.hexDigit? low
    return UInt8.ofNat (16 * high + low) :: (← ofHexDigits? rest)
  | _ => none

/-- The byte string that a JSON string writes in hexadecimal. -/
def ofJson? (json : Json) : Option Bytes := json.string?.bind fun text => ofHexDigits? text.toList

end Bytes

end SwapLedger
