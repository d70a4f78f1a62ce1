import Mathlib.Data.List.TakeWhile
import SwapLedger.Proofs.Matching

/-!
# Matching in wider slices

A matcher that has found a swap finds the same swap, and uses up as many transfers, when its window
and the range of invoked instructions go on further to the right: the sides of a trade are the first
two of their kind, the event is the first, and transfers made after an event do not count up to it.
-/

namespace SwapLedger

namespace MatchContext

variable {wide narrow : MatchContext} {transfers : List Transfer} {payloads : List Bytes}
  {condition : Transfer → Bool}

/-- A context shows all that another shows, and behind that further transfers, all made after the
invoked instructions of the other, and further invoked instructions with the given payloads. -/
structure ExtendsBy (wide narrow : MatchContext) (transfers : List Transfer)
    (payloads : List Bytes) : Prop where
  protocol_eq : wide.protocol = narrow.protocol
  account_eq : ∀ place, wide.account? place = narrow.account? place
  position_eq : wide.position = narrow.position
  invokedStart_eq : wide.invokedStart = narrow.invokedStart
  window_eq : wide.window = narrow.window ++ transfers
  made_later : ∀ transfer ∈ transfers,
    Position.invoked narrow.position.outer (narrow.invokedStart + narrow.invoked.length) ≤
      transfer.position
  payloads_eq : wide.invoked.map Instruction.payload =
    narrow.invoked.map Instruction.payload ++ payloads

namespace ExtendsBy

theorem following_eq (extension : wide.ExtendsBy narrow transfers payloads)
    (condition : Transfer → Bool) :
    ∃ later, wide.following condition = narrow.following condition ++ later ∧
      (transfers = [] → later = []) := by
  rw [following, following, extension.window_eq, extension.position_eq, List.zipIdx_append,
    List.filter_append]
  exact ⟨_, rfl, fun nothing => by simp [nothing]⟩

/-- The first two transfers stay the first two. -/
theorem firstTwo?_eq (extension : wide.ExtendsBy narrow transfers payloads)
    (settled : transfers = [] ∨ narrow.firstTwo? condition ≠ none) :
    wide.firstTwo? condition = narrow.firstTwo? condition := by
  rcases extension.following_eq condition with ⟨later, following, unchanged⟩
  rcases settled with nothing | found
  · rw [firstTwo?, firstTwo?, following, unchanged nothing, List.append_nil]
  · rcases Option.ne_none_iff_exists'.mp found with ⟨⟨first, second, consumed⟩, found⟩
    rcases firstTwo?_eq_some.mp found with ⟨firstPlace, secondPlace, rest, sides, used⟩
    rw [found, firstTwo?_eq_some]
    exact ⟨firstPlace, secondPlace, rest ++ later, by simp [following, sides], used⟩

/-- The first event stays the first. -/
theorem eventBody?_eq (extension : wide.ExtendsBy narrow transfers payloads)
    (settled : payloads = [] ∨ narrow.eventBody? ≠ none) :
    wide.eventBody? = narrow.eventBody? := by
  rw [MatchContext.eventBody?_eq wide, extension.payloads_eq, extension.position_eq,
    extension.invokedStart_eq, List.zipIdx_append, List.findSome?_append,
    ← MatchContext.eventBody?_eq]
  rcases settled with nothing | found
  · simp [nothing]
  · rcases Option.ne_none_iff_exists'.mp found with ⟨event, found⟩
    rw [found, Option.some_or]

/-- No transfer that comes in addition was made up to an event that was already seen. -/
theorem length_takeWhile_eq (extension : wide.ExtendsBy narrow transfers payloads)
    {position : Position} {body : Bytes} (seen : narrow.eventBody? = some (position, body)) :
    (wide.window.takeWhile fun transfer => decide (transfer.position ≤ position)).length =
      (narrow.window.takeWhile fun transfer => decide (transfer.position ≤ position)).length := by
  rcases eventBody?_eq_some seen with ⟨offset, instruction, stands, _, rfl⟩
  have offset_lt := (List.getElem?_eq_some_iff.mp stands).1
  have later : ∀ transfer ∈ transfers,
      ¬transfer.position ≤ .invoked narrow.position.outer (narrow.invokedStart + offset) := by
    intro transfer member
    rw [not_le]
    apply lt_of_lt_of_le _ (extension.made_later transfer member)
    rw [Position.invoked_lt_invoked]
    omega
  have noneMore : transfers.takeWhile (fun transfer => decide (transfer.position ≤
      .invoked narrow.position.outer (narrow.invokedStart + offset))) = [] := by
    rw [List.takeWhile_eq_nil_iff]
    intro nonempty
    simpa using later _ (List.getElem_mem nonempty)
  rw [extension.window_eq, List.takeWhile_append]
  split_ifs with whole
  · rw [noneMore, List.append_nil, whole]
  · rfl

theorem inOrder_eq (extension : wide.ExtendsBy narrow transfers payloads) (pairPlace : Nat)
    (settled : transfers = [] ∨ (narrow.inOrder condition pairPlace).candidate ≠ none) :
    wide.inOrder condition pairPlace = narrow.inOrder condition pairPlace := by
  have settledSides : transfers = [] ∨ narrow.firstTwo? condition ≠ none := by
    apply settled.imp_right
    intro found missing
    simp [inOrder, missing, MatchOutcome.nothing] at found
  rw [inOrder, inOrder, extension.firstTwo?_eq settledSides, extension.account_eq,
    extension.protocol_eq]

theorem byRole_eq (extension : wide.ExtendsBy narrow transfers payloads)
    (walletPlace pairPlace : Nat)
    (settled : transfers = [] ∨ (narrow.byRole walletPlace pairPlace).candidate ≠ none) :
    wide.byRole walletPlace pairPlace = narrow.byRole walletPlace pairPlace := by
  have settledSides : transfers = [] ∨ narrow.firstTwo? Transfer.isLeg ≠ none := by
    apply settled.imp_right
    intro found missing
    simp [byRole, missing, MatchOutcome.nothing] at found
  rw [byRole, byRole, extension.firstTwo?_eq settledSides, extension.account_eq,
    extension.account_eq, extension.protocol_eq]

theorem byEvent_eq (extension : wide.ExtendsBy narrow transfers payloads) (pairPlace : Nat)
    (settled : payloads = [] ∨ (narrow.byEvent pairPlace).candidate ≠ none) :
    wide.byEvent pairPlace = narrow.byEvent pairPlace := by
  have settledEvent : payloads = [] ∨ narrow.eventBody? ≠ none := by
    apply settled.imp_right
    intro found missing
    simp [byEvent, missing, MatchOutcome.nothing] at found
  have sameEvent (event : TradeEvent) (pair : Address) :
      wide.ofEvent event pair = narrow.ofEvent event pair := by
    rw [ofEvent, ofEvent, extension.protocol_eq]
  rw [byEvent, byEvent, extension.eventBody?_eq settledEvent]
  cases seen : narrow.eventBody? with
  | none => rfl
  | some carried =>
      rcases carried with ⟨position, body⟩
      simp only [extension.account_eq, sameEvent, extension.length_takeWhile_eq seen]

end ExtendsBy

end MatchContext

/-- The matcher of an exchange finds in a wider context what it has found in a narrower one, and in
one that is not wider it finds the same in any case. -/
theorem Protocol.matcher_eq_of_extendsBy {protocol : Protocol} {wide narrow : MatchContext}
    {transfers : List Transfer} {payloads : List Bytes}
    (extension : wide.ExtendsBy narrow transfers payloads)
    (settled : transfers = [] ∧ payloads = [] ∨ (protocol.matcher narrow).candidate ≠ none) :
    protocol.matcher wide = protocol.matcher narrow := by
  rcases protocol.matcher_cases with ⟨pairPlace, matcher⟩ |
    ⟨_, walletPlace, pairPlace, matcher⟩ | rfl
  · rw [matcher] at settled ⊢
    exact extension.inOrder_eq pairPlace (settled.imp_left And.left)
  · rw [matcher] at settled ⊢
    exact extension.byRole_eq walletPlace pairPlace (settled.imp_left And.left)
  · exact extension.byEvent_eq 3 (settled.imp_left And.right)

/-- The matcher of an exchange claims as many transfers of the wider window. -/
theorem Protocol.claimed_eq_of_extendsBy {protocol : Protocol} {wide narrow : MatchContext}
    {transfers : List Transfer} {payloads : List Bytes}
    (extension : wide.ExtendsBy narrow transfers payloads)
    (settled : transfers = [] ∧ payloads = [] ∨ (protocol.matcher narrow).candidate ≠ none) :
    min (protocol.matcher wide).consumed wide.window.length =
      min (protocol.matcher narrow).consumed narrow.window.length := by
  rw [Protocol.matcher_eq_of_extendsBy extension settled, extension.window_eq, List.length_append]
  rcases settled with ⟨rfl, _⟩ | found
  · rfl
  · rcases Option.ne_none_iff_exists'.mp found with ⟨candidate, found⟩
    have consumed_le := Protocol.consumed_le found
    omega

end SwapLedger
