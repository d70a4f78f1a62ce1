import SwapLedger.Payload.AssociatedToken
import SwapLedger.Payload.Token

/-!
# Instruction payloads

What an instruction asks for, by the program it is addressed to. Programs without a layout here are
not looked into.
-/

namespace SwapLedger

/-- The meaning of an instruction's payload. -/
inductive Payload where
  | system (instruction : SystemInstruction)
  | token (instruction : TokenInstruction)
  | associatedToken (instruction : AssociatedTokenInstruction)
  /-- An instruction of some other program. -/
  | foreign
  deriving DecidableEq

namespace Payload

/-- Reads a payload with the layout of its program. -/
def decode (program : Address) (payload : Bytes) : Payload :=
  if program = Address.systemProgram then .system (.decode payload)
  else if Address.isTokenProgram program then .token (.decode payload)
  else if program = Address.associatedTokenProgram then .associatedToken (.decode payload)
  else .foreign

end Payload

end SwapLedger
