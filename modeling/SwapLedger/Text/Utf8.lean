import SwapLedger.Bytes

/-!
# Bytes as text

Texts are bytes in UTF-8. Bytes that are no text have faults; a fault is as long as the bytes that
could still have begun a character, and at least one byte long.
-/

namespace SwapLedger

namespace Text

/-- A place where bytes are no text. -/
structure Utf8Fault where
  /-- How many bytes stand before it. -/
  index : Nat
  /-- How long it is; nothing if only the rest of a character is missing at the end. -/
  length : Option Nat
  deriving DecidableEq

/-- The fault in words. -/
def Utf8Fault.message (fault : Utf8Fault) : String :=
  match fault.length with
  | some length =>
    "invalid utf-8 sequence of " ++ toString length ++ " bytes from index " ++ toString fault.index
  | none => "incomplete utf-8 byte sequence from index " ++ toString fault.index

/-- A character that has been read in part. -/
structure Utf8Partial where
  /-- How many bytes are missing. -/
  missing : Nat
  /-- The bits so far. -/
  bits : Nat
  /-- The least byte that may come next. -/
  least : Nat
  /-- The greatest byte that may come next. -/
  greatest : Nat

namespace Utf8Partial

/-- What the first byte of a character says about the rest. -/
def ofFirst? (byte : Nat) : Option Utf8Partial :=
  if byte < 0x80 then some ⟨0, byte, 0, 0⟩
  else if byte < 0xC2 then none
  else if byte < 0xE0 then some ⟨1, byte - 0xC0, 0x80, 0xBF⟩
  else if byte < 0xF0 then
    some ⟨2, byte - 0xE0, if byte = 0xE0 then 0xA0 else 0x80, if byte = 0xED then 0x9F else 0xBF⟩
  else if byte < 0xF5 then
    some ⟨3, byte - 0xF0, if byte = 0xF0 then 0x90 else 0x80, if byte = 0xF4 then 0x8F else 0xBF⟩
  else none

/-- What is known after one more byte, if it may come next. -/
def next? (begun : Utf8Partial) (byte : Nat) : Option Utf8Partial :=
  if begun.least ≤ byte ∧ byte ≤ begun.greatest then
    some ⟨begun.missing - 1, begun.bits * 64 + (byte - 0x80), 0x80, 0xBF⟩
  else none

end Utf8Partial

/-- Reads the rest of a character of which some bytes are taken, or tells how it is broken. -/
def utf8Rest : (fuel taken : Nat) → Utf8Partial → Bytes → (Char ⊕ Option Nat) × Bytes
  | 0, taken, _, bytes => (.inr (some taken), bytes)
  | fuel + 1, taken, begun, bytes =>
    if begun.missing = 0 then (.inl (Char.ofNat begun.bits), bytes)
    else
      match bytes with
      | [] => (.inr none, [])
      | byte :: rest =>
        match begun.next? byte.toNat with
        | some begun => utf8Rest fuel (taken + 1) begun rest
        | none => (.inr (some taken), byte :: rest)

/-- The characters and the faults of bytes, one after the other, from an index on. -/
def utf8Pieces : (fuel index : Nat) → Bytes → List (Char ⊕ Utf8Fault)
  | 0, _, _ => []
  | _, _, [] => []
  | fuel + 1, index, byte :: rest =>
    let (piece, behind) := match Utf8Partial.ofFirst? byte.toNat with
      | some begun => utf8Rest 4 1 begun rest
      | none => (.inr (some 1), rest)
    let piece := match piece with
      | .inl character => .inl character
      | .inr length => .inr ⟨index, length⟩
    piece :: utf8Pieces fuel (index + 1 + (rest.length - behind.length)) behind

/-- The text of bytes, or their first fault. -/
def ofUtf8 (bytes : Bytes) : Except Utf8Fault String := do
  let characters ← (utf8Pieces bytes.length 0 bytes).mapM fun
    | .inl character => .ok character
    | .inr fault => .error fault
  return String.ofList characters

/-- The text of bytes in which the replacement character stands for each fault. -/
def ofUtf8Lossy (bytes : Bytes) : String :=
  String.ofList ((utf8Pieces bytes.length 0 bytes).map fun
    | .inl character => character
    | .inr _ => '\uFFFD')

end Text

end SwapLedger
