import SwapLedger.Base58
import SwapLedger.Failure

/-!
# Signatures

A signature is written as the base58 text of its 64 bytes.
-/

namespace SwapLedger

namespace Signature

/-- How many bytes a signature has. -/
def size : Nat := 64

/-- How many bytes the text of a signature has at most. -/
def greatestTextSize : Nat := 88

/-- What is wrong with the text of a signature, if anything is. -/
def problem? (text : String) : Option String :=
  let wrongSize := "string decoded to wrong size for signature"
  if greatestTextSize < text.utf8ByteSize then some wrongSize
  else
    match Base58.decode? text with
    | none => some "failed to decode string to signature"
    | some bytes => if bytes.length = size then none else some wrongSize

/-- Refuses a text that is no signature. -/
def check (text : String) : Except Failure Unit :=
  match problem? text with
  | none => .ok ()
  | some problem => .error (.decoding ("invalid signature " ++ text ++ ": " ++ problem))

end Signature

end SwapLedger
