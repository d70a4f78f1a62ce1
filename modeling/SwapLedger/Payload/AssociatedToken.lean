import SwapLedger.Bytes

/-!
# Instructions of the associated token program

A one-byte tag; the oldest form of account creation has no payload at all. The accounts of a
creation are: payer, token account, wallet, mint, system program, token program.
-/

namespace SwapLedger

/-- An instruction of the associated token program. -/
inductive AssociatedTokenInstruction where
  | create
  | createIdempotent
  | recoverNested
  | unrecognized (tag : UInt8)
  deriving DecidableEq

namespace AssociatedTokenInstruction

/-- The instruction of a payload. -/
def decode : Bytes → AssociatedTokenInstruction
  | [] => .create
  | tag :: _ =>
    match tag.toNat with
    | 0 => .create
    | 1 => .createIdempotent
    | 2 => .recoverNested
    | _ => .unrecognized tag

/-- Whether the instruction sets up a token account. -/
def createsAccount : AssociatedTokenInstruction → Bool
  | .create | .createIdempotent => true
  | _ => false

end AssociatedTokenInstruction

end SwapLedger
