import SwapLedger.Payload.System

/-!
# Instructions of the token programs

A one-byte tag, then the fields. As with the system program, reading never fails, and fields that
the payload does not reach are zero. The accounts an instruction works on stand in its account list:

* `transfer`: source, destination, authority; `transferChecked`: source, mint, destination,
  authority;
* `mintTo` and `mintToChecked`: mint, account, authority;
* `burn` and `burnChecked`: account, mint, authority;
* `initializeAccount`: account, mint, owner; the later editions carry the owner in the payload.
-/

namespace SwapLedger

/-- An instruction of a token program. -/
inductive TokenInstruction where
  | initializeMint (decimals : UInt8) (authority : Address)
  | initializeAccount
  | initializeAccount2 (owner : Address)
  | initializeAccount3 (owner : Address)
  | transfer (amount : UInt64)
  | transferChecked (amount : UInt64) (decimals : UInt8)
  | mintTo (amount : UInt64)
  | mintToChecked (amount : UInt64) (decimals : UInt8)
  | burn (amount : UInt64)
  | burnChecked (amount : UInt64) (decimals : UInt8)
  | setAuthority (kind : UInt8) (authority : Option Address)
  /-- A tag that is not one of the above, or no tag at all. -/
  | unrecognized (tag : Option UInt8)
  deriving DecidableEq

namespace TokenInstruction

/-- The byte at an offset, zero if the payload ends before it. -/
def byteAt (payload : Bytes) (offset : Nat) : UInt8 := (payload.u8? offset).getD 0

/-- The instruction of a payload. -/
def decode (payload : Bytes) : TokenInstruction :=
  match payload with
  | [] => .unrecognized none
  | tag :: _ =>
    let amount := SystemInstruction.amountAt payload 1
    let decimals := byteAt payload 9
    match tag.toNat with
    | 0 | 20 => .initializeMint (byteAt payload 1) (SystemInstruction.addressAt payload 2)
    | 1 => .initializeAccount
    | 3 => .transfer amount
    | 6 =>
      .setAuthority (byteAt payload 1)
        (if payload.u8? 2 = some 1 then (payload.slice? 3 32).map Address.ofBytes else none)
    | 7 => .mintTo amount
    | 8 => .burn amount
    | 12 => .transferChecked amount decimals
    | 14 => .mintToChecked amount decimals
    | 15 => .burnChecked amount decimals
    | 16 => .initializeAccount2 (SystemInstruction.addressAt payload 1)
    | 18 => .initializeAccount3 (SystemInstruction.addressAt payload 1)
    | _ => .unrecognized (some tag)

/-- Whether the instruction sets up a token account. -/
def initializesAccount : TokenInstruction → Bool
  | .initializeAccount | .initializeAccount2 _ | .initializeAccount3 _ => true
  | _ => false

end TokenInstruction

end SwapLedger
