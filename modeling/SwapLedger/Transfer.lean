import SwapLedger.Decimal
import SwapLedger.Transaction

/-!
# Transfers

A transfer is one movement of value, made by one instruction. Its ends are wallets, not the token
accounts that the instruction names. The native currency has the empty address as its mint.
-/

namespace SwapLedger

/-- What kind of movement a transfer is. -/
inductive TransferKind where
  | native
  | token
  | mint
  | burn
  deriving DecidableEq

namespace TransferKind

/-- The name of the kind. -/
def label : TransferKind → String
  | .native => "native"
  | .token => "token"
  | .mint => "mint"
  | .burn => "burn"

/-- All kinds. -/
def all : List TransferKind := [.native, .token, .mint, .burn]

end TransferKind

/-- One movement of value. -/
structure Transfer where
  position : Position
  source : Address
  destination : Address
  /-- Who signed the movement. -/
  authority : Address
  mint : Address
  amount : Decimal
  kind : TransferKind
  deriving DecidableEq

namespace Transfer

/-- Whether the transfer can be one side of a trade: tokens made or destroyed cannot. -/
def isLeg (transfer : Transfer) : Bool :=
  transfer.kind = .native || transfer.kind = .token

end Transfer

end SwapLedger
