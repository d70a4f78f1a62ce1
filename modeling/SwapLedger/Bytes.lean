/-!
# Byte strings

Instruction data and trade events are flat little-endian layouts. This file reads fixed-width
fields at an offset, and writes them, so that each layout can be stated once in each direction.
A read that would run past the end gives `none`; nothing is ever read partially.
-/

namespace SwapLedger

/-- A finite string of bytes. -/
abbrev Bytes := List UInt8

namespace Bytes

variable (bytes : Bytes)

/-- The natural number that `bytes` write with the least significant byte first. -/
def toNatLittleEndian : Bytes → Nat
  | [] => 0
  | byte :: rest => byte.toNat + 256 * toNatLittleEndian rest

/-- The `width` low bytes of `value`, least significant first. -/
def ofNatLittleEndian : (width : Nat) → (value : Nat) → Bytes
  | 0, _ => []
  | width + 1, value => UInt8.ofNat (value % 256) :: ofNatLittleEndian width (value / 256)

/-- The natural number that `bytes` write with the most significant byte first. -/
def toNatBigEndian (bytes : Bytes) : Nat :=
  bytes.foldl (fun total byte => total * 256 + byte.toNat) 0

/-- Exactly `width` bytes from `offset` on, if there are that many. -/
def slice? (offset width : Nat) : Option Bytes :=
  let field := (bytes.drop offset).take width
  if field.length = width then some field else none

/-- The byte at `offset`. -/
def u8? (offset : Nat) : Option UInt8 := bytes[offset]?

/-- The 32-bit word at `offset`. -/
def u32? (offset : Nat) : Option UInt32 :=
  (slice? bytes offset 4).map fun field => UInt32.ofNat (toNatLittleEndian field)

/-- The 64-bit word at `offset`. -/
def u64? (offset : Nat) : Option UInt64 :=
  (slice? bytes offset 8).map fun field => UInt64.ofNat (toNatLittleEndian field)

/-- The four bytes of a 32-bit word. -/
def ofUInt32 (word : UInt32) : Bytes := ofNatLittleEndian 4 word.toNat

/-- The eight bytes of a 64-bit word. -/
def ofUInt64 (word : UInt64) : Bytes := ofNatLittleEndian 8 word.toNat

/-- The bytes that follow the first occurrence of `pattern`, at whatever offset it starts. -/
def after? (pattern : Bytes) : Bytes → Option Bytes
  | [] => if pattern = [] then some [] else none
  | byte :: rest =>
    if pattern.isPrefixOf (byte :: rest) then some ((byte :: rest).drop pattern.length)
    else after? pattern rest

@[simp]
theorem length_ofNatLittleEndian (width value : Nat) :
    (ofNatLittleEndian width value).length = width := by
  induction width generalizing value with
  | zero => rfl
  | succ width ih => simp [ofNatLittleEndian, ih]

theorem toNatLittleEndian_ofNatLittleEndian (width value : Nat)
    (fits : value < 1 <<< (8 * width)) :
    toNatLittleEndian (ofNatLittleEndian width value) = value := by
  induction width generalizing value with
  | zero => simp at fits; simp [ofNatLittleEndian, toNatLittleEndian, fits]
  | succ width ih =>
    have upper : value / 256 < 1 <<< (8 * width) := by
      rw [Nat.shiftLeft_eq, Nat.mul_succ, Nat.pow_add] at fits
      rw [Nat.shiftLeft_eq]
      omega
    have byte : (UInt8.ofNat (value % 256)).toNat = value % 256 := by
      simp [UInt8.toNat_ofNat']
    simp only [ofNatLittleEndian, toNatLittleEndian, byte, ih _ upper]
    omega

end Bytes

end SwapLedger
