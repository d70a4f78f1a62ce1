import Mathlib.Data.Nat.Basic
import SwapLedger.Proofs.Matching

/-!
# Matching by role

On some exchanges the wallet and the pool stand at fixed places of the account list, and what the
wallet gave is the leg that it signed. Which side paid first then does not matter: if just one of
the two legs is signed by the wallet, exchanging what they moved, but not when, changes nothing of
what is found.
-/

namespace SwapLedger

/-- The places of the wallet and of the pool in the account list, on the exchanges whose trades are
matched by them. -/
def Protocol.roles? : Protocol → Option (Nat × Nat)
  | .pumpFunAmm => some (1, 0)
  | .raydiumClmm => some (0, 2)
  | .raydiumCpmm => some (0, 3)
  | _ => none

theorem Protocol.matcher_of_roles? {protocol : Protocol} {walletPlace pairPlace : Nat}
    (roles : protocol.roles? = some (walletPlace, pairPlace)) (context : MatchContext) :
    protocol.matcher context = context.byRole walletPlace pairPlace := by
  cases protocol <;> cases roles <;> rfl

namespace Transfer

/-- A transfer, made when another one was. -/
def inPlaceOf (transfer other : Transfer) : Transfer := { transfer with position := other.position }

@[simp]
theorem authority_inPlaceOf (transfer other : Transfer) :
    (transfer.inPlaceOf other).authority = transfer.authority := rfl

end Transfer

@[simp]
theorem Candidate.ofLegs_inPlaceOf (protocol : Protocol) (wallet pair : Address)
    (given taken first second : Transfer) :
    ofLegs protocol wallet pair (given.inPlaceOf first) (taken.inPlaceOf second) =
      ofLegs protocol wallet pair given taken := rfl

/-- An entry of a list numbered in ascending order is the head, if none has a smaller number. -/
theorem exists_eq_cons_of_least {α : Type*} {list : List (α × Nat)} {entry : α × Nat}
    (ascending : list.Pairwise fun earlier later => earlier.2 < later.2) (member : entry ∈ list)
    (least : ∀ other ∈ list, entry.2 ≤ other.2) : ∃ rest, list = entry :: rest := by
  cases list with
  | nil => simp at member
  | cons head rest =>
      rcases List.mem_cons.mp member with rfl | later
      · exact ⟨rest, rfl⟩
      · have before := (List.pairwise_cons.mp ascending).1 entry later
        exact absurd (least head List.mem_cons_self) (Nat.not_le_of_lt before)

namespace MatchContext

variable {context : MatchContext} {first second transfer : Transfer}
  {firstPlace secondPlace walletPlace pairPlace : Nat} {wallet pair : Address}

/-! ## The first two legs -/

/-- A transfer that was made after the swap instruction and can be a side of a trade. -/
def IsLaterLeg (context : MatchContext) (transfer : Transfer) : Prop :=
  context.position < transfer.position ∧ transfer.isLeg

/-- The first two legs of the window after the swap instruction, and where they stand in it. -/
structure FirstLegs (context : MatchContext) (first second : Transfer)
    (firstPlace secondPlace : Nat) : Prop where
  first_at : context.window[firstPlace]? = some first
  second_at : context.window[secondPlace]? = some second
  before : firstPlace < secondPlace
  first_isLaterLeg : context.IsLaterLeg first
  second_isLaterLeg : context.IsLaterLeg second
  /-- Whatever else stands before the second of them is passed over. -/
  others : ∀ place < secondPlace, place ≠ firstPlace → ∀ transfer,
    context.window[place]? = some transfer → ¬context.IsLaterLeg transfer

/-- Two legs come first among those that follow just if they are the first two later legs: what else
stood before the second one would have its place among them. -/
theorem following_isLeg_eq_iff :
    (∃ rest, context.following Transfer.isLeg =
      (first, firstPlace) :: (second, secondPlace) :: rest) ↔
      context.FirstLegs first second firstPlace secondPlace := by
  have ascending := context.pairwise_following Transfer.isLeg
  have member_iff : ∀ transfer place, (transfer, place) ∈ context.following Transfer.isLeg ↔
      context.window[place]? = some transfer ∧ context.IsLaterLeg transfer :=
    fun transfer place => mem_following
  constructor
  · rintro ⟨rest, following⟩
    rw [following] at member_iff ascending
    have firstMember := (member_iff first firstPlace).mp (by simp)
    have secondMember := (member_iff second secondPlace).mp (by simp)
    rcases List.pairwise_cons.mp ascending with ⟨afterFirst, ascendingRest⟩
    have afterSecond := (List.pairwise_cons.mp ascendingRest).1
    refine ⟨firstMember.1, secondMember.1, afterFirst _ List.mem_cons_self, firstMember.2,
      secondMember.2, ?_⟩
    intro place place_lt other transfer stands isLaterLeg
    have member := (member_iff transfer place).mpr ⟨stands, isLaterLeg⟩
    simp only [List.mem_cons, Prod.mk.injEq] at member
    rcases member with ⟨_, same⟩ | ⟨_, same⟩ | later
    · exact other same
    · exact place_lt.ne same
    · exact absurd (afterSecond _ later) place_lt.le.not_gt
  · intro legs
    have firstMember := (member_iff first firstPlace).mpr ⟨legs.first_at, legs.first_isLaterLeg⟩
    have secondMember :=
      (member_iff second secondPlace).mpr ⟨legs.second_at, legs.second_isLaterLeg⟩
    have first_or_later : ∀ entry ∈ context.following Transfer.isLeg,
        entry.2 = firstPlace ∨ secondPlace ≤ entry.2 := by
      rintro ⟨transfer, place⟩ member
      by_contra neither
      rcases not_or.mp neither with ⟨other, notLater⟩
      rcases (member_iff transfer place).mp member with ⟨stands, isLaterLeg⟩
      exact legs.others place (Nat.lt_of_not_le notLater) other transfer stands isLaterLeg
    rcases exists_eq_cons_of_least ascending firstMember (fun entry member =>
      (first_or_later entry member).elim Eq.ge legs.before.le.trans) with ⟨rest, following⟩
    rw [following] at secondMember ascending first_or_later
    have secondInRest : (second, secondPlace) ∈ rest := by
      rcases List.mem_cons.mp secondMember with same | later
      · exact absurd (congrArg Prod.snd same) legs.before.ne'
      · exact later
    rcases List.pairwise_cons.mp ascending with ⟨afterFirst, ascendingRest⟩
    rcases exists_eq_cons_of_least ascendingRest secondInRest (fun entry member =>
      (first_or_later entry (List.mem_cons_of_mem _ member)).resolve_left
        (afterFirst entry member).ne') with ⟨restOfRest, rest_eq⟩
    exact ⟨restOfRest, by rw [following, rest_eq]⟩

/-- There are first two legs just if at least two legs follow the instruction. -/
theorem exists_firstLegs_iff :
    (∃ first second firstPlace secondPlace,
      context.FirstLegs first second firstPlace secondPlace) ↔
      2 ≤ (context.following Transfer.isLeg).length := by
  simp only [← following_isLeg_eq_iff]
  constructor
  · rintro ⟨first, second, firstPlace, secondPlace, rest, following⟩
    simp [following]
  · intro two
    match following : context.following Transfer.isLeg, two with
    | (first, firstPlace) :: (second, secondPlace) :: rest, _ =>
        exact ⟨first, second, firstPlace, secondPlace, rest, rfl⟩

theorem FirstLegs.firstTwo?_eq (legs : context.FirstLegs first second firstPlace secondPlace) :
    context.firstTwo? Transfer.isLeg = some (first, second, secondPlace + 1) := by
  rcases following_isLeg_eq_iff.mpr legs with ⟨rest, following⟩
  exact firstTwo?_eq_some.mpr ⟨firstPlace, secondPlace, rest, following, rfl⟩

theorem FirstLegs.byRole_eq (legs : context.FirstLegs first second firstPlace secondPlace)
    (walletKnown : context.account? walletPlace = some wallet)
    (pairKnown : context.account? pairPlace = some pair) :
    context.byRole walletPlace pairPlace =
      ⟨some (if first.authority = wallet then .ofLegs context.protocol wallet pair first second
        else .ofLegs context.protocol wallet pair second first), secondPlace + 1⟩ :=
  byRole_eq_of_firstTwo? walletKnown pairKnown legs.firstTwo?_eq

theorem byRole_of_account?_eq_none (unknown : context.account? pairPlace = none) :
    context.byRole walletPlace pairPlace = .nothing :=
  byRole_eq_nothing (Or.inr (Or.inr unknown))

/-! ## Exchanging two transfers -/

/-- The context with two transfers of its window exchanged, all but the positions at which they were
made. -/
def exchanged (context : MatchContext) (firstPlace secondPlace : Nat) : MatchContext :=
  match context.window[firstPlace]?, context.window[secondPlace]? with
  | some first, some second =>
    { context with
      window := (context.window.set firstPlace (second.inPlaceOf first)).set secondPlace
        (first.inPlaceOf second) }
  | _, _ => context

@[simp]
theorem account?_exchanged (place : Nat) :
    (context.exchanged firstPlace secondPlace).account? place = context.account? place := by
  rw [exchanged]
  split <;> rfl

@[simp]
theorem protocol_exchanged :
    (context.exchanged firstPlace secondPlace).protocol = context.protocol := by
  rw [exchanged]
  split <;> rfl

theorem exchanged_eq (firstStands : context.window[firstPlace]? = some first)
    (secondStands : context.window[secondPlace]? = some second) :
    context.exchanged firstPlace secondPlace =
      { context with
        window := (context.window.set firstPlace (second.inPlaceOf first)).set secondPlace
          (first.inPlaceOf second) } := by
  rw [exchanged, firstStands, secondStands]

theorem FirstLegs.exchanged (legs : context.FirstLegs first second firstPlace secondPlace) :
    (context.exchanged firstPlace secondPlace).FirstLegs (second.inPlaceOf first)
      (first.inPlaceOf second) firstPlace secondPlace := by
  have first_lt := (List.getElem?_eq_some_iff.mp legs.first_at).1
  have second_lt := (List.getElem?_eq_some_iff.mp legs.second_at).1
  rw [exchanged_eq legs.first_at legs.second_at]
  refine ⟨?_, ?_, legs.before, ?_, ?_, ?_⟩
  · rw [List.getElem?_set_ne legs.before.ne', List.getElem?_set_self first_lt]
  · rw [List.getElem?_set_self (by simpa using second_lt)]
  · exact ⟨legs.first_isLaterLeg.1, legs.second_isLaterLeg.2⟩
  · exact ⟨legs.second_isLaterLeg.1, legs.first_isLaterLeg.2⟩
  · intro place place_lt other transfer stands
    rw [List.getElem?_set_ne place_lt.ne', List.getElem?_set_ne other.symm] at stands
    exact legs.others place place_lt other transfer stands

/-! ## Which side paid first -/

/-- What matching by role finds does not depend on which side paid first, if the wallet signed just
one of the two legs: that one is what it gave, and the other one is known by not being signed. -/
theorem matcher_exchanged (protocol : Protocol) (context : MatchContext)
    (roles : protocol.roles? = some (walletPlace, pairPlace))
    (walletKnown : context.account? walletPlace = some wallet)
    (legs : context.FirstLegs first second firstPlace secondPlace)
    (oneSigned : Xor (first.authority = wallet) (second.authority = wallet)) :
    protocol.matcher (context.exchanged firstPlace secondPlace) = protocol.matcher context ∧
      (∀ pair, context.account? pairPlace = some pair → ∃ given taken,
        (given = first ∧ taken = second ∨ given = second ∧ taken = first) ∧
          given.authority = wallet ∧
          protocol.matcher context =
            ⟨some (.ofLegs context.protocol wallet pair given taken), secondPlace + 1⟩) ∧
      (context.account? pairPlace = none → protocol.matcher context = .nothing) := by
  rw [Protocol.matcher_of_roles? roles, Protocol.matcher_of_roles? roles]
  refine ⟨?_, ?_, byRole_of_account?_eq_none⟩
  · cases pairKnown : context.account? pairPlace with
    | none => rw [byRole_of_account?_eq_none pairKnown, byRole_of_account?_eq_none (by simpa)]
    | some pair =>
        rw [legs.byRole_eq walletKnown pairKnown,
          legs.exchanged.byRole_eq (by simpa using walletKnown) (by simpa using pairKnown)]
        rcases oneSigned with ⟨signed, unsigned⟩ | ⟨signed, unsigned⟩ <;>
          simp [signed, unsigned]
  · intro pair pairKnown
    rw [legs.byRole_eq walletKnown pairKnown]
    rcases oneSigned with ⟨signed, unsigned⟩ | ⟨signed, unsigned⟩
    · exact ⟨first, second, Or.inl ⟨rfl, rfl⟩, signed, by rw [if_pos signed]⟩
    · exact ⟨second, first, Or.inr ⟨rfl, rfl⟩, signed, by rw [if_neg unsigned]⟩

/-- Without that it does: where the wallet signed both legs or neither, exchanging them turns the
trade around. -/
theorem exists_turned_around {protocol : Protocol}
    (roles : protocol.roles? = some (walletPlace, pairPlace))
    (walletKnown : context.account? walletPlace = some wallet)
    (pairKnown : context.account? pairPlace = some pair)
    (legs : context.FirstLegs first second firstPlace secondPlace)
    (notOne : first.authority = wallet ↔ second.authority = wallet) :
    ∃ given taken,
      protocol.matcher context =
        ⟨some (.ofLegs context.protocol wallet pair given taken), secondPlace + 1⟩ ∧
      protocol.matcher (context.exchanged firstPlace secondPlace) =
        ⟨some (.ofLegs context.protocol wallet pair taken given), secondPlace + 1⟩ := by
  rw [Protocol.matcher_of_roles? roles, Protocol.matcher_of_roles? roles,
    legs.byRole_eq walletKnown pairKnown,
    legs.exchanged.byRole_eq (by simpa using walletKnown) (by simpa using pairKnown)]
  by_cases signed : second.authority = wallet
  · exact ⟨first, second, by simp [signed, notOne]⟩
  · exact ⟨second, first, by simp [signed, notOne]⟩

/-- A trade on a concentrated pool in which the pool pays first. A transfer made before the
instruction, a mint and a burn stand around the two legs. -/
def concentratedContext : MatchContext where
  protocol := .raydiumClmm
  table := ["Payer", "Config", "Pool", Protocol.raydiumClmm.program]
  instruction := ⟨3, [0, 1, 2], "", some 2⟩
  position := .invoked 1 2
  window := [
    ⟨.invoked 1 0, "Payer", "Fee", "Payer", "", ⟨5000, 9⟩, .native⟩,
    ⟨.invoked 1 3, "", "Payer", "Pool", "Position", ⟨1, 0⟩, .mint⟩,
    ⟨.invoked 1 4, "Vault", "Payer", "Pool", "Coin", ⟨20000000, 6⟩, .token⟩,
    ⟨.invoked 1 5, "Payer", "", "Payer", "Ticket", ⟨1, 0⟩, .burn⟩,
    ⟨.invoked 1 6, "Payer", "Vault", "Payer", Address.wrappedNative, ⟨1000000000, 9⟩, .token⟩,
    ⟨.invoked 1 7, "Payer", "Tip", "Payer", "", ⟨100, 9⟩, .native⟩]
  invoked := []
  invokedStart := 3

/-- What the payer signed is what it gave, whichever side pays first. -/
theorem matcher_exchanged_concentrated :
    (∃ first second, concentratedContext.FirstLegs first second 2 4 ∧
      Xor (first.authority = "Payer") (second.authority = "Payer")) ∧
      Protocol.raydiumClmm.matcher (concentratedContext.exchanged 2 4) =
        Protocol.raydiumClmm.matcher concentratedContext ∧
      Protocol.raydiumClmm.matcher concentratedContext =
        ⟨some ⟨.raydiumClmm, "Payer", "Pool", Address.wrappedNative, ⟨1000000000, 9⟩, "Coin",
          ⟨20000000, 6⟩⟩, 5⟩ := by
  have legs : concentratedContext.FirstLegs
      ⟨.invoked 1 4, "Vault", "Payer", "Pool", "Coin", ⟨20000000, 6⟩, .token⟩
      ⟨.invoked 1 6, "Payer", "Vault", "Payer", Address.wrappedNative, ⟨1000000000, 9⟩, .token⟩
      2 4 :=
    following_isLeg_eq_iff.mp ⟨_, rfl⟩
  have oneSigned : Xor ("Pool" = "Payer") ("Payer" = "Payer") := by decide
  have same := matcher_exchanged .raydiumClmm concentratedContext rfl rfl legs oneSigned
  exact ⟨⟨_, _, legs, oneSigned⟩, same.1, by decide⟩

end MatchContext

end SwapLedger
