import SwapLedger.Text.Blank
import SwapLedger.Text.Hexadecimal
import SwapLedger.Text.Utf8

/-!
# Percent encoding

Bytes in URLs: a percent sign with two hexadecimal digits stands for a byte, and every other
character for its own bytes. A percent sign without them stands for itself. In forms a plus sign
stands for a space.
-/

namespace SwapLedger

namespace Text

/-- The bytes of characters. -/
def utf8 (characters : List Char) : Bytes := (String.ofList characters).toUTF8.toList

/-- The byte of two hexadecimal digits. -/
def hexByte? (high low : Char) : Option UInt8 := do
  return .ofNat ((← hexDigit? high) * 16 + (← hexDigit? low))

/-- The bytes that an encoded text stands for. -/
def percentDecoded : List Char → Bytes
  | '%' :: high :: low :: rest =>
    match hexByte? high low with
    | some byte => byte :: percentDecoded rest
    | none => utf8 ['%'] ++ percentDecoded (high :: low :: rest)
  | character :: rest => utf8 [character] ++ percentDecoded rest
  | [] => []

/-- The text that a part of a form stands for. -/
def formDecoded (characters : List Char) : String :=
  ofUtf8Lossy (percentDecoded (characters.map fun character =>
    if character = '+' then ' ' else character))

/-- The names and values of a form. Empty parts are passed over, and a part without an equals sign
is a name. -/
def formPairs (form : List Char) : List (String × String) :=
  ((pieces '&' form).filter (· ≠ [])).map fun part =>
    (formDecoded (part.takeWhile (· != '=')), formDecoded ((part.dropWhile (· != '=')).drop 1))

/-- A text in which controls, characters beyond ASCII and some others are encoded. -/
def percentEncoded (others characters : List Char) : List Char :=
  characters.flatMap fun character =>
    if character.toNat < 0x20 ∨ 0x7E < character.toNat ∨ others.contains character then
      (utf8 [character]).flatMap fun byte =>
        ['%', (hexDigit (byte.toNat / 16)).toUpper, (hexDigit (byte.toNat % 16)).toUpper]
    else [character]

end Text

end SwapLedger
