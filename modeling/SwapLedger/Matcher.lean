import SwapLedger.Candidate
import SwapLedger.TradeEvent

/-!
# Matchers

A matcher looks at one swap instruction, at the transfers made while it ran that no earlier swap has
claimed, and at the instructions it invoked. It finds at most one candidate, and says how many
transfers from the start of its window it has used up.

Three ways of matching cover all exchanges. On most, the two transfers that follow the instruction
are the two sides of the trade, the first being what the wallet gave. On some, the wallet stands at
a fixed place of the account list, and the side it signed is what it gave. One moves no transfers
that could be matched, and reports its trades as events.
-/

namespace SwapLedger

/-- What a matcher may look at. -/
structure MatchContext where
  protocol : Protocol
  table : AccountTable
  /-- The swap instruction. -/
  instruction : Instruction
  /-- Where it stands. -/
  position : Position
  /-- The transfers made while it ran that are not claimed yet, in execution order. -/
  window : List Transfer
  /-- The instructions that it invoked. -/
  invoked : List Instruction
  /-- The place in its group of the first of them. -/
  invokedStart : Nat

/-- What a matcher found. -/
structure MatchOutcome where
  candidate : Option Candidate
  /-- How many transfers of the window are used up. -/
  consumed : Nat
  deriving DecidableEq

namespace MatchOutcome

/-- No swap. -/
def nothing : MatchOutcome := ⟨none, 0⟩

end MatchOutcome

namespace MatchContext

variable (context : MatchContext)

/-- The address at a place of the account list. -/
def account? (place : Nat) : Option Address :=
  context.instruction.account? context.table place

/-- The transfers of the window after the swap instruction that fulfil a condition, each with its
place in the window. -/
def following (condition : Transfer → Bool) : List (Transfer × Nat) :=
  context.window.zipIdx.filter fun (transfer, _) =>
    decide (context.position < transfer.position) && condition transfer

/-- The first two transfers after the swap instruction that fulfil a condition, and how many
transfers the window has up to the second. -/
def firstTwo? (condition : Transfer → Bool) : Option (Transfer × Transfer × Nat) :=
  match context.following condition with
  | (first, _) :: (second, place) :: _ => some (first, second, place + 1)
  | _ => none

/-- The trade is the first two transfers that fulfil a condition; what was given comes first. -/
def inOrder (condition : Transfer → Bool) (pairPlace : Nat) : MatchOutcome :=
  match context.firstTwo? condition with
  | none => .nothing
  | some (given, taken, consumed) =>
    let pair := (context.account? pairPlace).getD ""
    ⟨some (.ofLegs context.protocol given.source pair given taken), consumed⟩

/-- The trade is the first two legs; what was given is the one that the wallet signed. -/
def byRole (walletPlace pairPlace : Nat) : MatchOutcome :=
  match context.account? walletPlace, context.account? pairPlace, context.firstTwo? Transfer.isLeg
  with
  | some wallet, some pair, some (first, second, consumed) =>
    let (given, taken) := if first.authority = wallet then (first, second) else (second, first)
    ⟨some (.ofLegs context.protocol wallet pair given taken), consumed⟩
  | _, _, _ => .nothing

/-- The first invoked instruction whose payload holds the tag of a trade event: its position, and
what follows the tag. -/
def eventBody? : Option (Position × Bytes) :=
  context.invoked.zipIdx.findSome? fun (instruction, offset) =>
    (TradeEvent.bodyIn? instruction.payload).map
      (Position.invoked context.position.outer (context.invokedStart + offset), ·)

/-- The candidate of a trade event. -/
def ofEvent (event : TradeEvent) (pair : Address) : Candidate :=
  let sol := Decimal.ofUnits event.solAmount 9
  let token := Decimal.ofUnits event.tokenAmount 6
  if event.isBuy then
    ⟨context.protocol, event.userAddress, pair, Address.wrappedNative, sol, event.mintAddress, token⟩
  else
    ⟨context.protocol, event.userAddress, pair, event.mintAddress, token, Address.wrappedNative, sol⟩

/-- The trade is the one that the exchange reports. All transfers up to the report are used up. -/
def byEvent (pairPlace : Nat) : MatchOutcome :=
  match context.eventBody? with
  | none => .nothing
  | some (position, body) =>
    match TradeEvent.decode? body with
    | none => .nothing
    | some event =>
      let pair := (context.account? pairPlace).getD ""
      ⟨some (context.ofEvent event pair),
        (context.window.takeWhile fun transfer => decide (transfer.position ≤ position)).length⟩

end MatchContext

/-- A way of finding the swap in a context. -/
abbrev Matcher := MatchContext → MatchOutcome

/-- Whether tokens that existed before were moved. -/
def Transfer.isTokenMove (transfer : Transfer) : Bool := transfer.kind = .token

/-- The matcher of an exchange. -/
def Protocol.matcher : Protocol → Matcher
  | .orca => fun context => context.inOrder Transfer.isLeg 2
  | .raydiumV4 => fun context => context.inOrder Transfer.isLeg 1
  | .phoenix => fun context => context.inOrder Transfer.isLeg 2
  | .lifinity => fun context => context.inOrder Transfer.isLeg 1
  | .fluxbeam => fun context => context.inOrder Transfer.isLeg 0
  | .meteoraDlmm => fun context => context.inOrder Transfer.isTokenMove 0
  | .meteoraPools => fun context => context.inOrder Transfer.isTokenMove 0
  | .pumpFunAmm => fun context => context.byRole 1 0
  | .raydiumClmm => fun context => context.byRole 0 2
  | .raydiumCpmm => fun context => context.byRole 0 3
  | .pumpFun => fun context => context.byEvent 3

end SwapLedger
