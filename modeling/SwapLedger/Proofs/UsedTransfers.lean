import Mathlib.Data.List.Basic
import SwapLedger.Proofs.RoleMatching

/-!
# Used transfers

Which transfers of its window a matcher uses up. One that reads trades off transfers uses them up to
the second side of the trade, which is the last one used; what stands around the two sides is passed
over. One that reads trades off events uses up what was made before the event. A matcher without a
candidate uses up nothing.
-/

namespace SwapLedger

/-! ## Lists -/

section Lists

variable {α : Type*} {list : List α}

/-- Where all that fulfils a condition stands in front, a scan up to the first failure counts it. -/
theorem length_takeWhile_eq_countP {condition : α → Bool}
    (infront : list.Pairwise fun earlier later => condition later → condition earlier) :
    (list.takeWhile condition).length = list.countP condition := by
  induction list with
  | nil => rfl
  | cons head rest ih =>
      rcases List.pairwise_cons.mp infront with ⟨head_of_rest, infrontRest⟩
      by_cases fulfils : condition head
      · simp [fulfils, ih infrontRest]
      · have none : ∀ element ∈ rest, ¬condition element := fun element member later =>
          fulfils (head_of_rest element member later)
        simp [fulfils, List.countP_eq_zero.mpr none]

/-- Up to the place of one that fulfils a condition, which counts the entries in front of it, stand
just those that do so before it. -/
theorem filter_take_of_filter_zipIdx (condition : α → Bool) {before rest : List (α × Nat)}
    {last : α} {place : Nat} (found : (list.zipIdx.filter fun entry => condition entry.1) =
      before ++ (last, place) :: rest) :
    (list.take (place + 1)).filter condition = before.map Prod.fst ++ [last] ∧
      (list.take (place + 1)).getLast? = some last := by
  rcases List.filter_eq_append_iff.mp found with ⟨passed, others, split, rfl, tail⟩
  rcases List.filter_eq_cons_iff.mp tail with ⟨skipped, behind, rfl, unfit, fits, _⟩
  have whole : list.zipIdx = (passed ++ skipped ++ [(last, place)]) ++ behind := by
    simp [split]
  have place_eq : (passed ++ skipped).length = place := by
    have stands : list.zipIdx[(passed ++ skipped).length]? = some (last, place) := by
      rw [whole, List.append_assoc (passed ++ skipped), List.getElem?_append_right (Nat.le_refl _),
        Nat.sub_self]
      rfl
    rw [List.getElem?_zipIdx, Nat.zero_add] at stands
    rcases Option.map_eq_some_iff.mp stands with ⟨element, _, same⟩
    exact (Prod.mk.inj same).2
  have taken : list.take (place + 1) = (passed ++ skipped ++ [(last, place)]).map Prod.fst := by
    rw [← List.zipIdx_map_fst 0 list, ← List.map_take, whole, ← place_eq]
    congr 1
    exact List.take_left' (by simp [Nat.add_assoc])
  have unfitSkipped : skipped.filter (fun entry => condition entry.1) = [] := by
    simpa using unfit
  rw [taken, List.filter_map]
  constructor
  · simp only [List.filter_append, Function.comp_def, unfitSkipped, List.append_nil,
      List.map_append]
    simp [fits]
  · simp

end Lists

namespace MatchContext

variable {context : MatchContext} {condition : Transfer → Bool} {candidate : Candidate}
  {first second : Transfer} {consumed walletPlace pairPlace : Nat}

/-- Whether a transfer was made after the swap instruction and fulfils a condition. -/
def isLater (context : MatchContext) (condition : Transfer → Bool) (transfer : Transfer) : Bool :=
  decide (context.position < transfer.position) && condition transfer

/-- The first so many transfers of the window hold just two that were made after the swap
instruction and fulfil a condition, and end with the second of them. -/
structure EndsWithSecond (context : MatchContext) (condition : Transfer → Bool) (consumed : Nat)
    (first second : Transfer) : Prop where
  sides : (context.window.take consumed).filter (context.isLater condition) = [first, second]
  last : (context.window.take consumed).getLast? = some second

theorem map_following (context : MatchContext) (condition : Transfer → Bool) :
    (context.following condition).map Prod.fst =
      context.window.filter (context.isLater condition) := by
  conv_rhs => rw [← List.zipIdx_map_fst 0 context.window, List.filter_map]
  rfl

theorem endsWithSecond_of_firstTwo?
    (two : context.firstTwo? condition = some (first, second, consumed)) :
    context.EndsWithSecond condition consumed first second ∧ consumed ≤ context.window.length := by
  rcases firstTwo?_eq_some.mp two with ⟨firstPlace, secondPlace, rest, following, rfl⟩
  have stands : context.window[secondPlace]? = some second :=
    (mem_following.mp (following ▸ by simp : (second, secondPlace) ∈ context.following condition)).1
  have split := filter_take_of_filter_zipIdx (context.isLater condition)
    (show context.window.zipIdx.filter (fun entry => context.isLater condition entry.1) =
      [(first, firstPlace)] ++ (second, secondPlace) :: rest from following)
  exact ⟨⟨split.1, split.2⟩, (List.getElem?_eq_some_iff.mp stands).1⟩

theorem firstTwo?_eq_none_iff :
    context.firstTwo? condition = none ↔
      (context.window.filter (context.isLater condition)).length < 2 := by
  rw [← map_following, List.length_map, firstTwo?]
  split
  · rename_i following
    simp [following]
  · rename_i fewer
    rcases following : context.following condition with
      _ | ⟨first, _ | ⟨second, rest⟩⟩
    · simp
    · simp
    · exact absurd following (fewer _ _ _ _ _)

/-! ## The ways of matching -/

/-- A candidate is the trade of two transfers. Where the wallet has a place in the account list, it
gave the first transfer if it signed that one, and else the second. Elsewhere the source of the
first transfer is the wallet, and the first transfer is what it gave. -/
def IsTradeOf (context : MatchContext) (roles? : Option (Nat × Nat)) (candidate : Candidate)
    (first second : Transfer) : Prop :=
  match roles? with
  | none => ∃ pair, candidate = .ofLegs context.protocol first.source pair first second
  | some (walletPlace, pairPlace) => ∃ wallet pair, context.account? walletPlace = some wallet ∧
      context.account? pairPlace = some pair ∧
      candidate = if first.authority = wallet then .ofLegs context.protocol wallet pair first second
        else .ofLegs context.protocol wallet pair second first

/-- The wallet or the pool is not in the account list, where it has its place there. -/
def LacksRole (context : MatchContext) (roles? : Option (Nat × Nat)) : Prop :=
  ∃ walletPlace pairPlace, roles? = some (walletPlace, pairPlace) ∧
    (context.account? walletPlace = none ∨ context.account? pairPlace = none)

/-- The trade that a matcher has read off transfers, and how many transfers it has used up. -/
inductive ReadsOff (context : MatchContext) (condition : Transfer → Bool)
    (roles? : Option (Nat × Nat)) : MatchOutcome → Prop where
  | nothing
      (lacking : (context.window.filter (context.isLater condition)).length < 2 ∨
        context.LacksRole roles?) :
      ReadsOff context condition roles? .nothing
  | trade {candidate : Candidate} {consumed : Nat} {first second : Transfer}
      (inside : consumed ≤ context.window.length)
      (ends : context.EndsWithSecond condition consumed first second)
      (isTrade : context.IsTradeOf roles? candidate first second)
      (roles : ¬context.LacksRole roles?) :
      ReadsOff context condition roles? ⟨some candidate, consumed⟩

theorem readsOff_inOrder (context : MatchContext) (condition : Transfer → Bool) (pairPlace : Nat) :
    context.ReadsOff condition none (context.inOrder condition pairPlace) := by
  cases two : context.firstTwo? condition with
  | none =>
      rw [inOrder, two]
      exact .nothing (Or.inl (firstTwo?_eq_none_iff.mp two))
  | some trade =>
      rcases trade with ⟨first, second, consumed⟩
      rcases endsWithSecond_of_firstTwo? two with ⟨ends, inside⟩
      rw [inOrder, two]
      exact .trade inside ends ⟨_, rfl⟩ (by simp [LacksRole])

theorem readsOff_byRole (context : MatchContext) (walletPlace pairPlace : Nat) :
    context.ReadsOff Transfer.isLeg (some (walletPlace, pairPlace))
      (context.byRole walletPlace pairPlace) := by
  cases two : context.firstTwo? Transfer.isLeg with
  | none =>
      rw [byRole_eq_nothing (Or.inl two)]
      exact .nothing (Or.inl (firstTwo?_eq_none_iff.mp two))
  | some trade =>
      rcases trade with ⟨first, second, consumed⟩
      rcases endsWithSecond_of_firstTwo? two with ⟨ends, inside⟩
      by_cases lacking : context.account? walletPlace = none ∨ context.account? pairPlace = none
      · rw [byRole_eq_nothing (Or.inr lacking)]
        exact .nothing (Or.inr ⟨_, _, rfl, lacking⟩)
      · rcases not_or.mp lacking with ⟨walletStands, pairStands⟩
        rcases Option.ne_none_iff_exists'.mp walletStands with ⟨wallet, walletKnown⟩
        rcases Option.ne_none_iff_exists'.mp pairStands with ⟨pair, pairKnown⟩
        rw [byRole_eq_of_firstTwo? walletKnown pairKnown two]
        exact .trade inside ends ⟨wallet, pair, walletKnown, pairKnown, rfl⟩
          (by simp [LacksRole, walletKnown, pairKnown])

theorem EndsWithSecond.two_le (ends : context.EndsWithSecond condition consumed first second) :
    2 ≤ (context.window.filter (context.isLater condition)).length := by
  have shorter := ((List.take_sublist consumed context.window).filter
    (context.isLater condition)).length_le
  rwa [ends.sides] at shorter

namespace ReadsOff

variable {roles? : Option (Nat × Nat)} {outcome : MatchOutcome}

theorem consumed_le (readsOff : context.ReadsOff condition roles? outcome) :
    outcome.consumed ≤ context.window.length := by
  cases readsOff with
  | nothing _ => exact Nat.zero_le _
  | trade inside _ _ _ => exact inside

theorem consumed_eq_zero (readsOff : context.ReadsOff condition roles? outcome)
    (missing : outcome.candidate = none) : outcome.consumed = 0 := by
  cases readsOff with
  | nothing _ => rfl
  | trade _ _ _ _ => simp at missing

theorem exists_sides (readsOff : context.ReadsOff condition roles? outcome)
    (found : outcome.candidate = some candidate) :
    ∃ first second, context.EndsWithSecond condition outcome.consumed first second ∧
      context.IsTradeOf roles? candidate first second := by
  cases readsOff with
  | nothing _ => simp [MatchOutcome.nothing] at found
  | @trade _ _ first second _ ends isTrade _ =>
      rw [Option.some.injEq] at found
      exact ⟨first, second, ends, found ▸ isTrade⟩

theorem candidate_eq_none_iff (readsOff : context.ReadsOff condition roles? outcome) :
    outcome.candidate = none ↔
      (context.window.filter (context.isLater condition)).length < 2 ∨
        context.LacksRole roles? := by
  cases readsOff with
  | nothing lacking => exact iff_of_true rfl lacking
  | trade _ ends _ roles =>
      exact iff_of_false (by simp) (not_or.mpr ⟨ends.two_le.not_gt, roles⟩)

end ReadsOff

/-- The trade that a matcher has read off an event, and how many transfers it has used up. -/
inductive ReadsEvent (context : MatchContext) (pairPlace : Nat) : MatchOutcome → Prop where
  | nothing : ReadsEvent context pairPlace .nothing
  | trade {position : Position} {body : Bytes} {event : TradeEvent}
      (found : context.eventBody? = some (position, body))
      (decoded : TradeEvent.decode? body = some event) :
      ReadsEvent context pairPlace
        ⟨some (context.ofEvent event ((context.account? pairPlace).getD "")),
          (context.window.takeWhile fun transfer => decide (transfer.position ≤ position)).length⟩

theorem readsEvent_byEvent (context : MatchContext) (pairPlace : Nat) :
    context.ReadsEvent pairPlace (context.byEvent pairPlace) := by
  rw [byEvent]
  split
  · exact .nothing
  · rename_i position body found
    split
    · exact .nothing
    · rename_i event decoded
      exact .trade found decoded

namespace ReadsEvent

variable {outcome : MatchOutcome}

theorem consumed_eq_zero (readsEvent : context.ReadsEvent pairPlace outcome)
    (missing : outcome.candidate = none) : outcome.consumed = 0 := by
  cases readsEvent with
  | nothing => rfl
  | trade _ _ => simp at missing

/-- Of an ordered window all is used up that was made no later than the event. -/
theorem exists_event (readsEvent : context.ReadsEvent pairPlace outcome)
    (sorted : context.window.Pairwise fun earlier later => earlier.position ≤ later.position)
    (found : outcome.candidate = some candidate) :
    ∃ position body event, context.eventBody? = some (position, body) ∧
      TradeEvent.decode? body = some event ∧
      candidate = context.ofEvent event ((context.account? pairPlace).getD "") ∧
      outcome.consumed =
        context.window.countP fun transfer => decide (transfer.position ≤ position) := by
  cases readsEvent with
  | nothing => simp [MatchOutcome.nothing] at found
  | @trade position body event carried decoded =>
      refine ⟨position, body, event, carried, decoded, (Option.some.inj found).symm, ?_⟩
      apply length_takeWhile_eq_countP
      apply sorted.imp
      intro earlier later le
      simpa using le_trans le

end ReadsEvent

end MatchContext

/-! ## The matchers -/

/-- Every matcher but the one that reads events reads trades off transfers. -/
theorem Protocol.readsOff_matcher {protocol : Protocol} (movesTransfers : protocol ≠ .pumpFun)
    (context : MatchContext) :
    context.ReadsOff protocol.isSide protocol.roles? (protocol.matcher context) := by
  cases protocol with
  | pumpFun => exact absurd rfl movesTransfers
  | pumpFunAmm => exact context.readsOff_byRole 1 0
  | raydiumClmm => exact context.readsOff_byRole 0 2
  | raydiumCpmm => exact context.readsOff_byRole 0 3
  | _ => exact context.readsOff_inOrder _ _

namespace MatchContext

/-- What a matcher uses up of an ordered window: no more than there is, and nothing without a
candidate. Where trades are read off transfers, the part used up holds just the two sides of the
trade after the swap instruction and ends with the second; a candidate is missing just if there are
fewer than two such transfers, or the wallet or the pool is missing that the account list was to
name. Where trades are read off events, it is what was made before the event or with it. -/
theorem used_through_second (protocol : Protocol) (context : MatchContext)
    (sorted : context.window.Pairwise fun earlier later => earlier.position ≤ later.position) :
    (protocol.matcher context).consumed ≤ context.window.length ∧
      ((protocol.matcher context).candidate = none → (protocol.matcher context).consumed = 0) ∧
      (protocol ≠ .pumpFun →
        (∀ candidate, (protocol.matcher context).candidate = some candidate →
          ∃ first second, context.EndsWithSecond protocol.isSide
              (protocol.matcher context).consumed first second ∧
            context.IsTradeOf protocol.roles? candidate first second) ∧
        ((protocol.matcher context).candidate = none ↔
          (context.window.filter (context.isLater protocol.isSide)).length < 2 ∨
            context.LacksRole protocol.roles?)) ∧
      (protocol = .pumpFun →
        ∀ candidate, (protocol.matcher context).candidate = some candidate →
          ∃ position body event, context.eventBody? = some (position, body) ∧
            TradeEvent.decode? body = some event ∧
            candidate = context.ofEvent event ((context.account? 3).getD "") ∧
            (protocol.matcher context).consumed =
              context.window.countP fun transfer => decide (transfer.position ≤ position)) := by
  by_cases movesTransfers : protocol = .pumpFun
  · subst movesTransfers
    have readsEvent := context.readsEvent_byEvent 3
    exact ⟨context.consumed_byEvent_le 3, readsEvent.consumed_eq_zero,
      fun moves => absurd rfl moves, fun _ _ found => readsEvent.exists_event sorted found⟩
  · have readsOff := Protocol.readsOff_matcher movesTransfers context
    exact ⟨readsOff.consumed_le, readsOff.consumed_eq_zero,
      fun _ => ⟨fun _ found => readsOff.exists_sides found, readsOff.candidate_eq_none_iff⟩,
      fun isEvents => absurd isEvents movesTransfers⟩

/-- The trade on a concentrated pool uses up the window through the second leg, a burn between the
legs included and the tip behind them left. Without that leg there is no trade, and on an exchange
that trades tokens only the window is used up just as far. -/
theorem used_through_second_concentrated :
    (concentratedContext.window.Pairwise fun earlier later =>
      earlier.position ≤ later.position) ∧
      (Protocol.raydiumClmm.matcher concentratedContext).consumed = 5 ∧
      (∃ first second, concentratedContext.EndsWithSecond Transfer.isLeg 5 first second ∧
        concentratedContext.IsTradeOf (some (0, 2)) ⟨.raydiumClmm, "Payer", "Pool",
          Address.wrappedNative, ⟨1000000000, 9⟩, "Coin", ⟨20000000, 6⟩⟩ first second) ∧
      (∃ first second, concentratedContext.EndsWithSecond Transfer.isTokenMove
        (Protocol.meteoraDlmm.matcher concentratedContext).consumed first second) ∧
      (Protocol.raydiumClmm.matcher
        { concentratedContext with window := concentratedContext.window.take 4 }).consumed = 0 := by
  have sorted : concentratedContext.window.Pairwise fun earlier later =>
      earlier.position ≤ later.position := by
    decide
  have sortedStart : (concentratedContext.window.take 4).Pairwise fun earlier later =>
      earlier.position ≤ later.position :=
    sorted.sublist (List.take_sublist 4 _)
  have byRole := used_through_second .raydiumClmm concentratedContext sorted
  have tokens := used_through_second .meteoraDlmm concentratedContext sorted
  have oneLeg := used_through_second .raydiumClmm
    { concentratedContext with window := concentratedContext.window.take 4 } sortedStart
  rcases (tokens.2.2.1 (by decide)).1 _ rfl with ⟨first, second, ends, _⟩
  exact ⟨sorted, by decide, (byRole.2.2.1 (by decide)).1 _ (by decide), ⟨first, second, ends⟩,
    oneLeg.2.1 (by decide)⟩

end MatchContext

end SwapLedger
