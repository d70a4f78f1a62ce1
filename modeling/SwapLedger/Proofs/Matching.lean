import Mathlib.Data.List.Basic
import SwapLedger.Matcher
import SwapLedger.Proofs.ExecutionOrder

/-!
# Matching

What the matchers of the supported exchanges find. All but one read a trade off two transfers of
their window: the first two after the swap instruction that can be sides of a trade. The remaining
one reads it off an event. Both kinds never use up more than their window holds.
-/

namespace SwapLedger

/-- Which transfers the matcher of an exchange takes as sides of a trade. -/
def Protocol.isSide : Protocol → Transfer → Bool
  | .meteoraDlmm | .meteoraPools => Transfer.isTokenMove
  | .pumpFun => fun _ => false
  | _ => Transfer.isLeg

namespace MatchContext

variable {context : MatchContext} {condition : Transfer → Bool} {candidate : Candidate}
  {first second transfer : Transfer} {place consumed walletPlace pairPlace : Nat}
  {wallet pair : Address}

theorem mem_following : (transfer, place) ∈ context.following condition ↔
    context.window[place]? = some transfer ∧ context.position < transfer.position ∧
      condition transfer := by
  simp [following, List.mk_mem_zipIdx_iff_getElem?]

theorem pairwise_following (context : MatchContext) (condition : Transfer → Bool) :
    (context.following condition).Pairwise fun earlier later => earlier.2 < later.2 :=
  (pairwise_snd_zipIdx context.window 0).filter _

theorem firstTwo?_eq_some : context.firstTwo? condition = some (first, second, consumed) ↔
    ∃ firstPlace secondPlace rest,
      context.following condition = (first, firstPlace) :: (second, secondPlace) :: rest ∧
        consumed = secondPlace + 1 := by
  rw [firstTwo?]
  split
  · rename_i found
    rw [found]
    simp only [Option.some.injEq, Prod.mk.injEq, List.cons.injEq]
    constructor
    · rintro ⟨rfl, rfl, rfl⟩
      exact ⟨_, _, _, ⟨⟨rfl, rfl⟩, ⟨rfl, rfl⟩, rfl⟩, rfl⟩
    · rintro ⟨_, _, _, ⟨⟨rfl, rfl⟩, ⟨rfl, rfl⟩, rfl⟩, rfl⟩
      exact ⟨rfl, rfl, rfl⟩
  · rename_i fewer
    constructor
    · simp
    · rintro ⟨_, _, _, found, _⟩
      exact absurd found (fewer _ _ _ _ _)

/-- A candidate that was read off transfers: its sides are the first two transfers after the swap
instruction that fulfil a condition, and the window is used up to the second of them. -/
structure Trade (context : MatchContext) (condition : Transfer → Bool) (outcome : MatchOutcome)
    (candidate : Candidate) (first second : Transfer) (firstPlace secondPlace : Nat) : Prop where
  sides : ∃ rest,
    context.following condition = (first, firstPlace) :: (second, secondPlace) :: rest
  used : outcome.consumed = secondPlace + 1
  made : ∃ wallet pair, candidate = .ofLegs context.protocol wallet pair first second ∨
    candidate = .ofLegs context.protocol wallet pair second first

namespace Trade

variable {outcome : MatchOutcome} {firstPlace secondPlace : Nat}
  (trade : context.Trade condition outcome candidate first second firstPlace secondPlace)

include trade

theorem first_mem :
    context.window[firstPlace]? = some first ∧ context.position < first.position ∧
      condition first := by
  rcases trade.sides with ⟨rest, sides⟩
  exact mem_following.mp (by simp [sides])

theorem second_mem :
    context.window[secondPlace]? = some second ∧ context.position < second.position ∧
      condition second := by
  rcases trade.sides with ⟨rest, sides⟩
  exact mem_following.mp (by simp [sides])

theorem firstPlace_lt : firstPlace < secondPlace := by
  rcases trade.sides with ⟨rest, sides⟩
  have ascending := context.pairwise_following condition
  rw [sides, List.pairwise_cons] at ascending
  exact ascending.1 _ List.mem_cons_self

theorem consumed_le : outcome.consumed ≤ context.window.length := by
  rw [trade.used]
  exact (List.getElem?_eq_some_iff.mp trade.second_mem.1).1

end Trade

/-- Matching in order finds a trade whose first side was given. -/
theorem exists_trade_of_inOrder
    (found : (context.inOrder condition pairPlace).candidate = some candidate) :
    ∃ first second firstPlace secondPlace,
      context.Trade condition (context.inOrder condition pairPlace) candidate first second
        firstPlace secondPlace := by
  cases sides : context.firstTwo? condition with
  | none => simp [inOrder, sides, MatchOutcome.nothing] at found
  | some trade =>
      rcases trade with ⟨first, second, consumed⟩
      rcases firstTwo?_eq_some.mp sides with ⟨firstPlace, secondPlace, rest, following, rfl⟩
      simp only [inOrder, sides, Option.some.injEq] at found
      refine ⟨first, second, firstPlace, secondPlace, ⟨rest, following⟩, ?_, ?_⟩
      · simp [inOrder, sides]
      · exact ⟨_, _, Or.inl found.symm⟩

theorem byRole_eq_of_firstTwo? (walletKnown : context.account? walletPlace = some wallet)
    (pairKnown : context.account? pairPlace = some pair)
    (two : context.firstTwo? Transfer.isLeg = some (first, second, consumed)) :
    context.byRole walletPlace pairPlace =
      ⟨some (if first.authority = wallet then .ofLegs context.protocol wallet pair first second
        else .ofLegs context.protocol wallet pair second first), consumed⟩ := by
  rw [byRole, walletKnown, pairKnown, two]
  by_cases signed : first.authority = wallet <;> simp only [signed, if_true, if_false]

theorem byRole_eq_nothing (lacking : context.firstTwo? Transfer.isLeg = none ∨
    context.account? walletPlace = none ∨ context.account? pairPlace = none) :
    context.byRole walletPlace pairPlace = .nothing := by
  rw [byRole]
  split
  · simp_all
  · rfl

/-- Matching by role finds a trade whose given side is the one that the wallet signed. -/
theorem exists_trade_of_byRole
    (found : (context.byRole walletPlace pairPlace).candidate = some candidate) :
    ∃ first second firstPlace secondPlace,
      context.Trade Transfer.isLeg (context.byRole walletPlace pairPlace) candidate first second
        firstPlace secondPlace := by
  by_cases lacking : context.firstTwo? Transfer.isLeg = none ∨
    context.account? walletPlace = none ∨ context.account? pairPlace = none
  · simp [byRole_eq_nothing lacking, MatchOutcome.nothing] at found
  · simp only [not_or, ← ne_eq, Option.ne_none_iff_exists'] at lacking
    rcases lacking with ⟨⟨⟨first, second, consumed⟩, two⟩, ⟨wallet, walletKnown⟩, ⟨pair, pairKnown⟩⟩
    rcases firstTwo?_eq_some.mp two with ⟨firstPlace, secondPlace, rest, following, rfl⟩
    have outcome := byRole_eq_of_firstTwo? walletKnown pairKnown two
    rw [outcome, Option.some.injEq] at found
    refine ⟨first, second, firstPlace, secondPlace, ⟨rest, following⟩, by rw [outcome], wallet,
      pair, ?_⟩
    split_ifs at found
    · exact Or.inl found.symm
    · exact Or.inr found.symm

/-- The search for an event looks at payloads only. -/
theorem eventBody?_eq (context : MatchContext) :
    context.eventBody? =
      (context.invoked.map Instruction.payload).zipIdx.findSome? fun (payload, offset) =>
        (TradeEvent.bodyIn? payload).map
          (Position.invoked context.position.outer (context.invokedStart + offset), ·) := by
  rw [eventBody?, List.zipIdx_map, List.findSome?_map]
  rfl

/-- An event is found in one of the invoked instructions. -/
theorem eventBody?_eq_some {position : Position} {body : Bytes}
    (found : context.eventBody? = some (position, body)) :
    ∃ offset instruction, context.invoked[offset]? = some instruction ∧
      TradeEvent.bodyIn? instruction.payload = some body ∧
      position = .invoked context.position.outer (context.invokedStart + offset) := by
  rcases List.exists_of_findSome?_eq_some found with ⟨⟨instruction, offset⟩, member, carried⟩
  simp only [Option.map_eq_some_iff, Prod.mk.injEq] at carried
  rcases carried with ⟨_, carried, rfl, rfl⟩
  exact ⟨offset, instruction, List.mk_mem_zipIdx_iff_getElem?.mp member, carried, rfl⟩

/-- Matching by event finds the candidate of an event that an invoked instruction carries. -/
theorem exists_event_of_byEvent
    (found : (context.byEvent pairPlace).candidate = some candidate) :
    ∃ position body event, context.eventBody? = some (position, body) ∧
      TradeEvent.decode? body = some event ∧
      candidate = context.ofEvent event ((context.account? pairPlace).getD "") := by
  rw [byEvent] at found
  split at found
  · simp [MatchOutcome.nothing] at found
  · rename_i position body carried
    split at found
    · simp [MatchOutcome.nothing] at found
    · rename_i event decoded
      simp only [Option.some.injEq] at found
      exact ⟨position, body, event, carried, decoded, found.symm⟩

theorem consumed_byEvent_le (context : MatchContext) (pairPlace : Nat) :
    (context.byEvent pairPlace).consumed ≤ context.window.length := by
  rw [byEvent]
  split
  · exact Nat.zero_le _
  · split
    · exact Nat.zero_le _
    · exact (List.takeWhile_sublist _).length_le

end MatchContext

namespace Protocol

variable {protocol : Protocol} {context : MatchContext} {candidate : Candidate}

/-- There are three ways of matching. -/
theorem matcher_cases (protocol : Protocol) :
    (∃ pairPlace, protocol.matcher = fun context => context.inOrder protocol.isSide pairPlace) ∨
      (protocol.isSide = Transfer.isLeg ∧ ∃ walletPlace pairPlace,
        protocol.matcher = fun context => context.byRole walletPlace pairPlace) ∨
      protocol = .pumpFun := by
  cases protocol with
  | pumpFun => exact Or.inr (Or.inr rfl)
  | pumpFunAmm => exact Or.inr (Or.inl ⟨rfl, _, _, rfl⟩)
  | raydiumClmm => exact Or.inr (Or.inl ⟨rfl, _, _, rfl⟩)
  | raydiumCpmm => exact Or.inr (Or.inl ⟨rfl, _, _, rfl⟩)
  | _ => exact Or.inl ⟨_, rfl⟩

/-- A candidate of an exchange that moves transfers is a trade of two of them. -/
theorem exists_trade (movesTransfers : protocol ≠ .pumpFun)
    (found : (protocol.matcher context).candidate = some candidate) :
    ∃ first second firstPlace secondPlace,
      context.Trade protocol.isSide (protocol.matcher context) candidate first second
        firstPlace secondPlace := by
  rcases protocol.matcher_cases with ⟨pairPlace, matcher⟩ |
    ⟨sides, walletPlace, pairPlace, matcher⟩ | rfl
  · rw [matcher] at found ⊢
    exact MatchContext.exists_trade_of_inOrder found
  · rw [matcher] at found ⊢
    rw [sides]
    exact MatchContext.exists_trade_of_byRole found
  · exact absurd rfl movesTransfers

/-- A matcher that found a swap has used up transfers of its window only. -/
theorem consumed_le (found : (protocol.matcher context).candidate = some candidate) :
    (protocol.matcher context).consumed ≤ context.window.length := by
  by_cases movesTransfers : protocol = .pumpFun
  · subst protocol
    exact context.consumed_byEvent_le 3
  · rcases exists_trade movesTransfers found with ⟨_, _, _, _, trade⟩
    exact trade.consumed_le

/-- A candidate is one of the exchange that its context names. -/
theorem protocol_of_candidate (found : (protocol.matcher context).candidate = some candidate) :
    candidate.protocol = context.protocol := by
  by_cases movesTransfers : protocol = .pumpFun
  · subst protocol
    rcases MatchContext.exists_event_of_byEvent found with ⟨_, _, event, _, _, rfl⟩
    rw [MatchContext.ofEvent]
    split <;> rfl
  · rcases exists_trade movesTransfers found with ⟨_, _, _, _, trade⟩
    rcases trade.made with ⟨_, _, rfl | rfl⟩ <;> rfl

end Protocol

end SwapLedger
