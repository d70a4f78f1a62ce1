import Mathlib.Data.List.Induction
import SwapLedger.Proofs.CallCompletions

/-!
# Who holds a row of the database

Settling a delivery names the row only. So a client whose claim is over can give back what another
client holds by then, and a third one gets it as well: a row can be in the hands of several clients.
As long as nobody gives back what it does not hold, every row is in the hands of one client at most.
-/

namespace SwapLedger

namespace WorkHistory

/-- Whether a client has a row in its hands: it has claimed the row until a deadline that is not
over, and not settled it since. -/
def Holds (history : WorkHistory) (now client id : Nat) : Prop :=
  ∃ deadline, now ≤ deadline ∧
    Since (fun deed => deed.client = client ∧ deed.event = .claimed id deadline)
      (fun deed => deed.client = client ∧
        (deed.event = .givenBack id ∨ deed.event = .removed id)) history

/-- Whether a client has given back a row that it did not hold. -/
def Misplaced (history : WorkHistory) (id : Nat) : Prop :=
  ∃ before deed after, history = before ++ deed :: after ∧ deed.event = .givenBack id ∧
    ¬ Holds before deed.instant deed.client id

/-- Whether a row has been claimed by a client until a deadline that is not over, and not been given
back by anybody since. -/
def Reserved (history : WorkHistory) (now client id : Nat) : Prop :=
  ∃ deadline, now ≤ deadline ∧
    Since (fun deed => deed.client = client ∧ deed.event = .claimed id deadline)
      (fun deed => deed.event = .givenBack id) history

variable {queues : Nat → TableQueue} {history : WorkHistory} {deed : WorkDeed}
  {now client other id : Nat}

theorem Holds.earlier (holds : history.Holds now client id) {instant : Nat}
    (earlier : instant ≤ now) : history.Holds instant client id := by
  rcases holds with ⟨deadline, lasting, since⟩
  exact ⟨deadline, Nat.le_trans earlier lasting, since⟩

theorem Misplaced.append (misplaced : history.Misplaced id) (new : WorkHistory) :
    Misplaced (history ++ new) id := by
  rcases misplaced with ⟨before, deed, after, rfl, givenBack, unheld⟩
  exact ⟨before, deed, after ++ new, by simp, givenBack, unheld⟩

theorem Since.mono {started ended started' ended' : WorkDeed → Prop}
    (since : Since started ended history) (sooner : ∀ deed, started deed → started' deed)
    (rarer : ∀ deed, ended' deed → ended deed) : Since started' ended' history := by
  rcases since with ⟨before, deed, after, split, begun, lasting⟩
  exact ⟨before, deed, after, split, sooner deed begun,
    fun later member ends => lasting later member (rarer later ends)⟩

theorem Reserved.claimed (reserved : history.Reserved now client id) :
    ∃ deadline, now ≤ deadline ∧ history.Claimed id deadline := by
  rcases reserved with ⟨deadline, lasting, since⟩
  exact ⟨deadline, lasting, since.mono (fun _ => And.right) fun _ givenBack => givenBack⟩

/-- Nobody claims a row that is reserved. -/
theorem Accords.not_reserved (accords : history.Accords queues deed) (timely : deed.instant ≤ now)
    {deadline : Nat} (claims : deed.event = .claimed id deadline) :
    ¬ history.Reserved now client id := by
  intro reserved
  rcases reserved.claimed with ⟨deadline, lasting, claimed⟩
  rw [Accords, claims] at accords
  have expired := accords.2.1.2 deadline claimed
  omega

/-- A row is reserved for one client at most. -/
theorem Regular.reserved_unique (regular : history.Regular queues)
    (timely : ∀ deed ∈ history, deed.instant ≤ now) (reserved : history.Reserved now client id)
    (reserved' : history.Reserved now other id) : client = other := by
  induction history using List.reverseRecOn with
  | nil =>
      rcases reserved with ⟨_, _, since⟩
      exact absurd since not_since_nil
  | append_singleton history deed ih =>
      rcases regular_concat.mp regular with ⟨regular, _, accords⟩
      have reached := timely deed (by simp)
      have excludes {client deadline : Nat} (claims : deed.event = .claimed id deadline) :
          ¬ Reserved history now client id := accords.not_reserved reached claims
      rcases reserved with ⟨deadline, lasting, since⟩
      rcases reserved' with ⟨deadline', lasting', since'⟩
      rcases since_concat.mp since with ⟨since, _⟩ | ⟨by_client, claims⟩
      · rcases since_concat.mp since' with ⟨since', _⟩ | ⟨_, claims⟩
        · exact ih regular (fun earlier member => timely earlier (by simp [member]))
            ⟨deadline, lasting, since⟩ ⟨deadline', lasting', since'⟩
        · exact absurd ⟨deadline, lasting, since⟩ (excludes claims)
      · rcases since_concat.mp since' with ⟨since', _⟩ | ⟨by_other, _⟩
        · exact absurd ⟨deadline', lasting', since'⟩ (excludes claims)
        · exact by_client.symm.trans by_other

/-- A row is reserved for whoever holds it, unless somebody has given back what it did not hold.
Whoever gives the row back otherwise is the holder itself, which has not settled it. -/
theorem Holds.reserved (regular : history.Regular queues)
    (timely : ∀ deed ∈ history, deed.instant ≤ now) (orderly : ¬ history.Misplaced id)
    (holds : history.Holds now client id) : history.Reserved now client id := by
  induction history using List.reverseRecOn generalizing now client with
  | nil =>
      rcases holds with ⟨_, _, since⟩
      exact absurd since not_since_nil
  | append_singleton history deed ih =>
      rcases regular_concat.mp regular with ⟨regular, sooner, _⟩
      have orderly' : ¬ Misplaced history id := fun misplaced => orderly (misplaced.append _)
      have reached := timely deed (by simp)
      have timely' : ∀ earlier ∈ history, earlier.instant ≤ now :=
        fun earlier member => timely earlier (by simp [member])
      rcases holds with ⟨deadline, lasting, since⟩
      rcases since_concat.mp since with ⟨since, unsettled⟩ | claims
      · have held : Holds history now client id := ⟨deadline, lasting, since⟩
        rcases ih regular timely' orderly' held with ⟨deadline', lasting', reserved⟩
        refine ⟨deadline', lasting', since_concat.mpr (.inl ⟨reserved, fun givenBack => ?_⟩)⟩
        have gives : Holds history deed.instant deed.client id := by
          by_contra unheld
          exact orderly ⟨history, deed, [], rfl, givenBack, unheld⟩
        have same : deed.client = client := regular.reserved_unique sooner
          (ih regular sooner orderly' gives) (ih regular sooner orderly' (held.earlier reached))
        exact unsettled ⟨same, .inl givenBack⟩
      · exact ⟨deadline, lasting, since_concat.mpr (.inr claims)⟩

/-- If nobody gives back what it does not hold, a row is in the hands of one client at most. -/
theorem Regular.holds_unique (regular : history.Regular queues)
    (timely : ∀ deed ∈ history, deed.instant ≤ now) (orderly : ¬ history.Misplaced id)
    (holds : history.Holds now client id) (holds' : history.Holds now other id) :
    client = other :=
  regular.reserved_unique timely (holds.reserved regular timely orderly)
    (holds'.reserved regular timely orderly)

/-- No row is settled by consuming. -/
theorem Regular.call_ne_consume (regular : history.Regular queues) (member : deed ∈ history)
    (settles : deed.event = .givenBack id ∨ deed.event = .removed id) : deed.call ≠ .consume := by
  rcases List.append_of_mem member with ⟨before, after, split⟩
  have accords := (regular before deed after split).2
  rcases settles with givenBack | removed
  · rw [Accords, givenBack] at accords
    rcases accords with ⟨tag, rejects, _⟩
    simp [rejects]
  · rw [Accords, removed] at accords
    rcases accords with ⟨tag, acknowledges | rejects, _⟩
    · simp [acknowledges]
    · simp [rejects]

end WorkHistory

namespace Traffic

variable {queues : Nat → TableQueue} {traffic : Traffic} {taker holder begun : Nat}
  {delivery : Delivery}

/-- A client that gets a row holds it from then on, until its claim is over. -/
theorem Sound.holds_of_consumed (sound : traffic.Sound queues)
    (consumed : traffic.pending taker = some ⟨.consume, begun, .done (.ok (some delivery))⟩) :
    (∃ deadline < traffic.house.now, traffic.house.history.Shows begun taker
        fun _ deed => deed.event = .claimed delivery.tag deadline) ∨
      traffic.house.history.Holds traffic.house.now taker delivery.tag := by
  rcases sound.calls taker _ consumed with ⟨_, same_call, executed, reports, shown⟩
  rcases (reports : (queues taker).Reports .consume _ executed) with ⟨row, rfl, rfl⟩
  rcases shown _ (List.mem_singleton_self _) with
    ⟨before, deed, after, split, since, by_taker, ⟨deadline, claims⟩, _⟩
  by_cases expired : deadline < traffic.house.now
  · exact .inl ⟨deadline, expired, before, deed, after, split, since, by_taker, claims⟩
  · right
    refine ⟨deadline, Nat.le_of_not_lt expired, before, deed, after, split, ⟨by_taker, claims⟩, ?_⟩
    rintro later member ⟨by_taker, settles⟩
    have recent : later ∈ traffic.house.history.drop begun := by
      rw [split, List.drop_append_of_le_length since]
      exact List.mem_append_right _ (List.mem_cons_of_mem _ member)
    exact sound.house.regular.call_ne_consume (List.mem_of_mem_drop recent) settles
      (same_call later recent by_taker)

/-- After its claim is over, client 0 gives back what client 1 has got by then, and client 2 gets it
as well. -/
def heldTwice (queue : TableQueue) (item : WorkItem) : Traffic :=
  let now := queue.deadline 0 + 1
  let got (begun : Nat) : PendingCall :=
    ⟨.consume, begun, .done (.ok (some ⟨1, item.toPayload, true⟩))⟩
  ⟨⟨now, .oneRow queue item 3 (some (queue.deadline now)),
    claimedOnce queue item ++
      [⟨now, 1, .consume, .claimed 1 (queue.deadline now)⟩,
        ⟨now, 0, .reject 1 true, .givenBack 1⟩,
        ⟨now, 2, .consume, .claimed 1 (queue.deadline now)⟩]⟩,
    Function.update (Function.update (fun _ => none) 1 (some (got 2))) 2 (some (got 4))⟩

theorem reachable_heldTwice (queue : TableQueue) (item : WorkItem) :
    Reachable (fun _ => queue) (heldTwice queue item) := by
  have claimed := (reachable_overdue queue item).answered 1 rfl
    (Warehouse.completes_consume_oneRow (by simp))
  have givenBack := claimed.wholeCall 0 rfl Warehouse.completes_giveBack_oneRow
  exact givenBack.answered 2 rfl (Warehouse.completes_consume_oneRow rfl)

theorem holds_heldTwice (queue : TableQueue) (item : WorkItem) :
    (heldTwice queue item).house.history.Holds (heldTwice queue item).house.now 1 1 := by
  let now := queue.deadline 0 + 1
  refine ⟨queue.deadline now, Nat.le_add_right _ _, claimedOnce queue item,
    ⟨now, 1, .consume, .claimed 1 (queue.deadline now)⟩, _, rfl, ⟨rfl, rfl⟩, ?_⟩
  simp

/-- If a client gets a row that is in the hands of another one, then its own claim is over already,
or one of the two claims has been given back by somebody else, and the row has been given back by
somebody who did not hold it. -/
theorem soleHolder_unless_misplaced (reachable : Reachable queues traffic)
    (consumed : traffic.pending taker = some ⟨.consume, begun, .done (.ok (some delivery))⟩)
    (apart : holder ≠ taker)
    (holds : traffic.house.history.Holds traffic.house.now holder delivery.tag) :
    (∃ deadline < traffic.house.now, traffic.house.history.Shows begun taker
        fun _ deed => deed.event = .claimed delivery.tag deadline) ∨
      traffic.house.history.Misplaced delivery.tag ∧
        ∃ client, (client = holder ∨ client = taker) ∧
          traffic.house.history.Holds traffic.house.now client delivery.tag ∧
          ¬ traffic.house.history.Reserved traffic.house.now client delivery.tag := by
  have sound := sound_of_reachable reachable
  rcases sound.holds_of_consumed consumed with expired | holds'
  · exact .inl expired
  · have regular := sound.house.regular
    have timely := sound.house.timely
    refine .inr ⟨?_, ?_⟩
    · by_contra orderly
      exact apart (regular.holds_unique timely orderly holds holds')
    · by_cases reserved : traffic.house.history.Reserved traffic.house.now holder delivery.tag
      · refine ⟨taker, .inr rfl, holds', fun reserved' => ?_⟩
        exact apart (regular.reserved_unique timely reserved reserved')
      · exact ⟨holder, .inl rfl, holds, reserved⟩

theorem soleHolder_unless_misplaced_heldTwice :
    let traffic := heldTwice ⟨0, .standard⟩ ⟨1, 0, []⟩
    (∃ deadline < traffic.house.now, traffic.house.history.Shows 4 2
        fun _ deed => deed.event = .claimed 1 deadline) ∨
      traffic.house.history.Misplaced 1 ∧
        ∃ client, (client = 1 ∨ client = 2) ∧
          traffic.house.history.Holds traffic.house.now client 1 ∧
          ¬ traffic.house.history.Reserved traffic.house.now client 1 :=
  soleHolder_unless_misplaced (reachable_heldTwice ⟨0, .standard⟩ ⟨1, 0, []⟩) rfl
    (by decide : 1 ≠ 2) (holds_heldTwice _ _)

/-- Two clients can hold one row at once. -/
theorem not_soleHolder :
    ¬ ∀ (queues : Nat → TableQueue) (traffic : Traffic), Reachable queues traffic →
      ∀ taker begun (delivery : Delivery),
        traffic.pending taker = some ⟨.consume, begun, .done (.ok (some delivery))⟩ →
        ∀ holder, holder ≠ taker →
          ¬ traffic.house.history.Holds traffic.house.now holder delivery.tag := by
  intro alone
  let queue : TableQueue := ⟨0, .standard⟩
  let item : WorkItem := ⟨1, 0, []⟩
  exact alone _ (heldTwice queue item) (reachable_heldTwice queue item) 2 4
    ⟨1, item.toPayload, true⟩ rfl 1 (by decide) (holds_heldTwice queue item)

end Traffic

end SwapLedger
