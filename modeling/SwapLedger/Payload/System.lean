import SwapLedger.Address

/-!
# Instructions of the system program

A four-byte tag, then the fields of the instruction, little-endian and without padding. Reading
never fails: a payload that ends early gives the instruction that its tag names with the missing
fields at zero, and a tag shorter than four bytes is read as if zeros followed.
-/

namespace SwapLedger

/-- An instruction of the system program. -/
inductive SystemInstruction where
  | createAccount (lamports space : UInt64) (owner : Address)
  | assign (owner : Address)
  | transfer (lamports : UInt64)
  | allocate (space : UInt64)
  /-- A tag that is not one of the above, or no tag at all. -/
  | unrecognized (tag : Option UInt32)
  deriving DecidableEq

namespace SystemInstruction

/-- The tag of a payload, completed by zeros. -/
def tag (payload : Bytes) : Nat := Bytes.toNatLittleEndian (payload.take 4)

/-- The address at an offset, empty if the payload ends before it does. -/
def addressAt (payload : Bytes) (offset : Nat) : Address :=
  ((payload.slice? offset 32).map Address.ofBytes).getD ""

/-- The amount at an offset, zero if the payload ends before it does. -/
def amountAt (payload : Bytes) (offset : Nat) : UInt64 := (payload.u64? offset).getD 0

/-- The instruction of a payload. -/
def decode (payload : Bytes) : SystemInstruction :=
  if payload = [] then .unrecognized none
  else
    match tag payload with
    | 0 => .createAccount (amountAt payload 4) (amountAt payload 12) (addressAt payload 20)
    | 1 => .assign (addressAt payload 4)
    | 2 => .transfer (amountAt payload 4)
    | 8 => .allocate (amountAt payload 4)
    | other => .unrecognized (some (UInt32.ofNat other))

end SystemInstruction

end SwapLedger
