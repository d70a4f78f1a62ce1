import SwapLedger.Text.Hidden

/-!
# Quoted texts

A text in double quotes. Inside the quotes a backslash marks the characters that could not be told
apart otherwise.
-/

namespace SwapLedger

namespace Text

/-- A character inside quotes: hidden ones are written as codes. -/
def escape (character : Char) : List Char :=
  match character with
  | '"' => ['\\', '"']
  | '\\' => ['\\', '\\']
  | '\n' => ['\\', 'n']
  | '\r' => ['\\', 'r']
  | '\t' => ['\\', 't']
  | '\x00' => ['\\', '0']
  | _ =>
    if isHidden character then
      ['\\', 'u', '\x7b'] ++ Nat.toDigits 16 character.toNat ++ ['\x7d']
    else [character]

/-- A text in quotes. -/
def quote (text : String) : String :=
  String.ofList ('"' :: text.toList.flatMap escape ++ ['"'])

end Text

end SwapLedger
