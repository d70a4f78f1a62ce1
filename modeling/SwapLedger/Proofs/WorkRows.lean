import Mathlib.Data.List.Nodup
import SwapLedger.Proofs.WorkHistory

/-!
# The rows of the work queue

What statements do to the rows of the work queue, and that the rows stay as the history tells: a row
is there just if it has been published and not been removed since, it counts how often it has been
claimed, and it is hidden just as long as a claim of it lasts.
-/

namespace SwapLedger

namespace Tables

variable {tables : Tables} {now : Nat} {queue : String} {timeoutSecs : UInt64}

/-- What a statement does to the work queue at an instant. -/
def workEvent? (tables : Tables) (now : Nat) : Statement → Option WorkEvent
  | .publish queue payload => some (.published tables.nextId queue payload)
  | .claim queue timeoutSecs =>
    match (tables.claim now queue timeoutSecs).1 with
    | none => some .missed
    | some row => some (.claimed row.id (now + timeoutSecs.toNat * 1000))
  | .remove id => some (.removed id)
  | .release id => some (.givenBack id)
  | .depth queue => some (.counted (tables.work.filter fun row => row.claimable now queue).length)
  | _ => none

/-- A row after a change of one id is an old one with another id or what the change makes of the one
with it. -/
theorem mem_changeWork {id : Int} {change : WorkRow → Option WorkRow} {row : WorkRow} :
    row ∈ (tables.changeWork id change).work ↔
      row ∈ tables.work ∧ (row.id : Int) ≠ id ∨
        ∃ other ∈ tables.work, (other.id : Int) = id ∧ change other = some row := by
  simp only [changeWork, List.mem_filterMap]
  constructor
  · rintro ⟨other, member, kept⟩
    split_ifs at kept with same
    · exact .inr ⟨other, member, same, kept⟩
    · cases kept
      exact .inl ⟨member, same⟩
  · rintro (⟨member, apart⟩ | ⟨other, member, same, changed⟩)
    · exact ⟨row, member, if_neg apart⟩
    · exact ⟨other, member, by rw [if_pos same, changed]⟩

/-- A row keeps its place if its id does not change. -/
theorem pairwise_changeWork (ascending : tables.work.Pairwise (·.id < ·.id)) {id : Int}
    {change : WorkRow → Option WorkRow}
    (kept : ∀ row changed, change row = some changed → (row.id : Int) = id → changed.id = row.id) :
    (tables.changeWork id change).work.Pairwise (·.id < ·.id) := by
  rw [changeWork, List.pairwise_filterMap]
  refine ascending.imp fun {left right} before leftKept leftChanged rightKept rightChanged => ?_
  have same : ∀ row changed : WorkRow,
      (if (row.id : Int) = id then change row else some row) = some changed →
        changed.id = row.id := by
    intro row changed found
    split_ifs at found with equal
    · exact kept row changed found equal
    · cases found
      rfl
  rw [same left leftKept leftChanged, same right rightKept rightChanged]
  exact before

/-- Rows with one id are the same row, as the ids ascend. -/
theorem eq_of_id_eq (ascending : tables.work.Pairwise (·.id < ·.id)) {row other : WorkRow}
    (member : row ∈ tables.work) (member' : other ∈ tables.work) (same : row.id = other.id) :
    row = other := by
  have nodup : (tables.work.map (·.id)).Nodup := by
    rw [List.Nodup, List.pairwise_map]
    exact ascending.imp Nat.ne_of_lt
  exact List.inj_on_of_nodup_map nodup member member' same

theorem claim_of_none (nothing : ∀ row ∈ tables.work, row.claimable now queue = false) :
    tables.claim now queue timeoutSecs = (none, tables) := by
  have missed : tables.work.find? (fun row => row.claimable now queue) = none :=
    List.find?_eq_none.mpr fun row member => by simp [nothing row member]
  rw [claim, missed]

/-- A claim takes the first row that can be claimed, if there is one. -/
theorem claim_cases (ascending : tables.work.Pairwise (·.id < ·.id)) :
    ((∀ row ∈ tables.work, row.claimable now queue = false) ∧
      tables.claim now queue timeoutSecs = (none, tables)) ∨
    ∃ row ∈ tables.work, row.claimable now queue = true ∧
      (∀ other ∈ tables.work, other.claimable now queue = true → row.id ≤ other.id) ∧
      tables.claim now queue timeoutSecs = (some ⟨row.id, row.payload, row.deliveries + 1⟩,
        tables.changeWork row.id fun _ => some (row.claim now timeoutSecs)) := by
  cases found : tables.work.find? fun row => row.claimable now queue with
  | none =>
      have nothing : ∀ row ∈ tables.work, row.claimable now queue = false := fun row member => by
        simpa using List.find?_eq_none.mp found row member
      exact .inl ⟨nothing, claim_of_none nothing⟩
  | some row =>
      right
      refine ⟨row, List.mem_of_find?_eq_some found, by simpa using List.find?_some found,
        ?_, ?_⟩
      · intro other member claimable
        rcases List.find?_eq_some_iff_append.mp found with ⟨_, before, after, split, passed⟩
        rw [split] at member ascending
        rcases List.mem_append.mp member with earlier | later
        · have skipped := passed other earlier
          simp [claimable] at skipped
        · rcases List.mem_cons.mp later with rfl | later
          · exact Nat.le_refl _
          · have rest := (List.pairwise_append.mp ascending).2.1
            exact Nat.le_of_lt ((List.pairwise_cons.mp rest).1 other later)
      · rw [claim, found]
        rfl

end Tables

namespace WorkHistory

/-- Whether the work queue is, at an instant, as its history tells. -/
structure Recorded (now : Nat) (history : WorkHistory) (tables : Tables) : Prop where
  ascending : tables.work.Pairwise (·.id < ·.id)
  row_lt : ∀ deed ∈ history, ∀ id, deed.event.row? = some id → id < tables.nextId
  nextId_le : tables.nextId ≤ Statement.greatestInteger + 1
  stored_iff : ∀ id queue payload, history.Stored id queue payload ↔
    ∃ row ∈ tables.work, row.id = id ∧ row.queue = queue ∧ row.payload = payload
  deliveries_eq : ∀ row ∈ tables.work, row.deliveries = history.claims row.id
  claimed : ∀ row ∈ tables.work, ∀ deadline, row.claimedUntil = some deadline →
    history.Claimed row.id deadline
  /-- A claim that has not been given back is the last one of its row, or over. -/
  claimedUntil : ∀ row ∈ tables.work, ∀ deadline, history.Claimed row.id deadline →
    row.claimedUntil = some deadline ∨ deadline < now

namespace Recorded

variable {now : Nat} {history : WorkHistory} {tables : Tables} {deed : WorkDeed} {queue : String}

theorem initial (now : Nat) {tables : Tables} (noRows : tables.work = [])
    (nextId_eq : tables.nextId = 1) : Recorded now [] tables := by
  constructor
  · simp [noRows]
  · simp
  · simp [nextId_eq]
  · simp [noRows, Stored, not_since_nil]
  all_goals simp [noRows]

theorem later (recorded : Recorded now history tables) {instant : Nat} (later : now ≤ instant) :
    Recorded instant history tables := by
  refine { recorded with claimedUntil := ?_ }
  intro row member deadline claimed
  rcases recorded.claimedUntil row member deadline claimed with last | expired
  · exact .inl last
  · exact .inr (Nat.lt_of_lt_of_le expired later)

theorem id_lt (recorded : Recorded now history tables) {row : WorkRow}
    (member : row ∈ tables.work) : row.id < tables.nextId := by
  have stored := (recorded.stored_iff row.id row.queue row.payload).mpr
    ⟨row, member, rfl, rfl, rfl⟩
  rcases stored.exists_mem with ⟨deed, member, event⟩
  exact recorded.row_lt deed member row.id (by simp [event])

/-- The rows that can be claimed are those that wait, as the history tells. -/
theorem waits_iff (recorded : Recorded now history tables) {id : Nat} :
    history.Waits now queue id ↔
      ∃ row ∈ tables.work, row.id = id ∧ row.claimable now queue = true := by
  simp only [Waits, recorded.stored_iff, WorkRow.claimable, Bool.and_eq_true, beq_iff_eq]
  constructor
  · rintro ⟨⟨payload, row, member, rfl, rfl, rfl⟩, expired⟩
    refine ⟨row, member, rfl, rfl, ?_⟩
    cases until_eq : row.claimedUntil with
    | none => rfl
    | some deadline => simpa using expired deadline (recorded.claimed row member deadline until_eq)
  · rintro ⟨row, member, rfl, rfl, free⟩
    refine ⟨⟨_, row, member, rfl, rfl, rfl⟩, fun deadline claimed => ?_⟩
    rcases recorded.claimedUntil row member deadline claimed with last | expired
    · simpa [last] using free
    · exact expired

theorem stored_concat {id : Nat} {payload : String} :
    (history ++ [deed]).Stored id queue payload ↔
      history.Stored id queue payload ∧ deed.event ≠ .removed id ∨
        deed.event = .published id queue payload := since_concat

theorem claimed_concat {id deadline : Nat} :
    (history ++ [deed]).Claimed id deadline ↔
      history.Claimed id deadline ∧ deed.event ≠ .givenBack id ∨
        deed.event = .claimed id deadline := since_concat

/-- Ids that the history knows stay below the next one. -/
theorem row_lt_concat (recorded : Recorded now history tables) {nextId : Nat}
    (grown : tables.nextId ≤ nextId) (newest : ∀ id, deed.event.row? = some id → id < nextId) :
    ∀ earlier ∈ history ++ [deed], ∀ id, earlier.event.row? = some id → id < nextId := by
  intro earlier member id named
  rcases List.mem_append.mp member with member | last
  · exact Nat.lt_of_lt_of_le (recorded.row_lt earlier member id named) grown
  · rw [List.mem_singleton.mp last] at named
    exact newest id named

/-- Nothing has ever been done to the next row. -/
theorem not_claimed_nextId (recorded : Recorded now history tables) (deadline : Nat) :
    ¬ history.Claimed tables.nextId deadline := by
  intro claimed
  rcases claimed.exists_mem with ⟨deed, member, event⟩
  exact Nat.lt_irrefl _ (recorded.row_lt deed member _ (by simp [event]))

/-- No row of the next id has been claimed yet. -/
theorem claims_nextId (recorded : Recorded now history tables) :
    history.claims tables.nextId = 0 := by
  by_contra claimed
  rcases claims_pos.mp (Nat.pos_of_ne_zero claimed) with ⟨deed, member, deadline, event⟩
  exact Nat.lt_irrefl _ (recorded.row_lt deed member _ (by simp [event]))

/-- Publishing adds a row under the next id, and the history knows it. -/
theorem publish (recorded : Recorded now history tables) {payload : String}
    (event : deed.event = .published tables.nextId queue payload)
    (room : tables.nextId ≤ Statement.greatestInteger) :
    Recorded now (history ++ [deed])
      { tables with
        work := tables.work ++ [⟨tables.nextId, queue, payload, 0, none⟩],
        nextId := tables.nextId + 1 } := by
  have silent (id : Nat) : (history ++ [deed]).claims id = history.claims id := by
    simp [claims_concat, event]
  have unclaimed (id deadline : Nat) :
      (history ++ [deed]).Claimed id deadline ↔ history.Claimed id deadline := by
    simp [claimed_concat, event]
  constructor
  case ascending =>
    refine List.pairwise_append.mpr ⟨recorded.ascending, List.pairwise_singleton _ _, ?_⟩
    intro row member newest last
    rw [List.mem_singleton.mp last]
    exact recorded.id_lt member
  case row_lt =>
    apply recorded.row_lt_concat (Nat.le_succ _)
    intro id named
    rw [event, WorkEvent.row?, Option.some.injEq] at named
    exact named ▸ Nat.lt_succ_self _
  case nextId_le => exact Nat.succ_le_succ room
  case stored_iff =>
    intro id queue' payload'
    simp [stored_concat, event, recorded.stored_iff, or_and_right, exists_or]
  case deliveries_eq =>
    intro row member
    rw [silent]
    rcases List.mem_append.mp member with member | last
    · exact recorded.deliveries_eq row member
    · rw [List.mem_singleton.mp last]
      exact recorded.claims_nextId.symm
  case claimed =>
    intro row member deadline until_eq
    rw [unclaimed]
    rcases List.mem_append.mp member with member | last
    · exact recorded.claimed row member deadline until_eq
    · rw [List.mem_singleton.mp last] at until_eq
      cases until_eq
  case claimedUntil =>
    intro row member deadline claimed
    rw [unclaimed] at claimed
    rcases List.mem_append.mp member with member | last
    · exact recorded.claimedUntil row member deadline claimed
    · rw [List.mem_singleton.mp last] at claimed
      exact absurd claimed (recorded.not_claimed_nextId deadline)

/-- Claiming stamps a row, and the history knows until when. A row that could be claimed was free,
so that earlier claims of it are over. -/
theorem claim (recorded : Recorded now history tables) {row : WorkRow} {timeoutSecs : UInt64}
    (member : row ∈ tables.work) (claimable : row.claimable now queue = true)
    (event : deed.event = .claimed row.id (now + timeoutSecs.toNat * 1000)) :
    Recorded now (history ++ [deed])
      (tables.changeWork row.id fun _ => some (row.claim now timeoutSecs)) := by
  have claimedRow (other : WorkRow) :
      other ∈ (tables.changeWork row.id fun _ => some (row.claim now timeoutSecs)).work ↔
        other ∈ tables.work ∧ other.id ≠ row.id ∨ other = row.claim now timeoutSecs := by
    rw [Tables.mem_changeWork]
    constructor
    · rintro (⟨old, apart⟩ | ⟨_, _, _, same⟩)
      · exact .inl ⟨old, by exact_mod_cast apart⟩
      · cases same
        exact .inr rfl
    · rintro (⟨old, apart⟩ | rfl)
      · exact .inl ⟨old, by exact_mod_cast apart⟩
      · exact .inr ⟨row, member, rfl, rfl⟩
  constructor
  case ascending =>
    apply Tables.pairwise_changeWork recorded.ascending
    rintro other _ ⟨⟩ same
    exact (by exact_mod_cast same.symm : row.id = other.id)
  case row_lt =>
    apply recorded.row_lt_concat (Nat.le_refl _)
    intro id named
    rw [event, WorkEvent.row?, Option.some.injEq] at named
    exact named ▸ recorded.id_lt member
  case nextId_le => exact recorded.nextId_le
  case stored_iff =>
    intro id queue' payload'
    rw [stored_concat, event, recorded.stored_iff]
    simp only [ne_eq, reduceCtorEq, not_false_eq_true, and_true, or_false, claimedRow]
    constructor
    · rintro ⟨other, old, rfl, rfl, rfl⟩
      by_cases same : other.id = row.id
      · cases Tables.eq_of_id_eq recorded.ascending old member same
        exact ⟨_, .inr rfl, rfl, rfl, rfl⟩
      · exact ⟨other, .inl ⟨old, same⟩, rfl, rfl, rfl⟩
    · rintro ⟨other, ⟨old, _⟩ | rfl, rfl, rfl, rfl⟩
      · exact ⟨other, old, rfl, rfl, rfl⟩
      · exact ⟨row, member, rfl, rfl, rfl⟩
  case deliveries_eq =>
    intro other member'
    rw [claims_concat]
    rcases (claimedRow other).mp member' with ⟨old, apart⟩ | rfl
    · simpa [event, apart.symm] using recorded.deliveries_eq other old
    · simpa [event, WorkRow.claim] using recorded.deliveries_eq row member
  case claimed =>
    intro other member' deadline until_eq
    rw [claimed_concat, event]
    rcases (claimedRow other).mp member' with ⟨old, _⟩ | rfl
    · exact .inl ⟨recorded.claimed other old deadline until_eq, nofun⟩
    · right
      rw [WorkRow.claim, Option.some.injEq] at until_eq
      rw [← until_eq]
      rfl
  case claimedUntil =>
    intro other member' deadline claimed
    rw [claimed_concat, event] at claimed
    rcases (claimedRow other).mp member' with ⟨old, apart⟩ | rfl
    · rcases claimed with ⟨claimed, _⟩ | same
      · exact recorded.claimedUntil other old deadline claimed
      · rw [WorkEvent.claimed.injEq] at same
        exact absurd same.1.symm apart
    · rcases claimed with ⟨claimed, _⟩ | same
      · exact .inr ((recorded.waits_iff.mpr ⟨row, member, rfl, claimable⟩).2 deadline claimed)
      · cases same
        exact .inl rfl

/-- Removing a row ends it, if there is one. -/
theorem remove (recorded : Recorded now history tables) {id : Int}
    (event : deed.event = .removed id) :
    Recorded now (history ++ [deed]) (tables.changeWork id fun _ => none) := by
  have leftRow (row : WorkRow) :
      row ∈ (tables.changeWork id fun _ => none).work ↔
        row ∈ tables.work ∧ (row.id : Int) ≠ id := by
    simp [Tables.mem_changeWork]
  constructor
  case ascending => exact Tables.pairwise_changeWork recorded.ascending nofun
  case row_lt => exact recorded.row_lt_concat (Nat.le_refl _) (by simp [event])
  case nextId_le => exact recorded.nextId_le
  case stored_iff =>
    intro id' queue payload
    rw [stored_concat, event, recorded.stored_iff]
    simp only [leftRow, ne_eq, reduceCtorEq, or_false, WorkEvent.removed.injEq]
    constructor
    · rintro ⟨⟨row, member, rfl, rfl, rfl⟩, apart⟩
      exact ⟨row, ⟨member, Ne.symm apart⟩, rfl, rfl, rfl⟩
    · rintro ⟨row, ⟨member, apart⟩, rfl, rfl, rfl⟩
      exact ⟨⟨row, member, rfl, rfl, rfl⟩, Ne.symm apart⟩
  case deliveries_eq =>
    intro row member
    simpa [claims_concat, event] using recorded.deliveries_eq row ((leftRow row).mp member).1
  case claimed =>
    intro row member deadline until_eq
    rw [claimed_concat, event]
    exact .inl ⟨recorded.claimed row ((leftRow row).mp member).1 deadline until_eq, nofun⟩
  case claimedUntil =>
    intro row member deadline claimed
    rw [claimed_concat, event] at claimed
    simp only [ne_eq, reduceCtorEq, not_false_eq_true, and_true, or_false] at claimed
    exact recorded.claimedUntil row ((leftRow row).mp member).1 deadline claimed

/-- Giving a row back frees it, if there is one. -/
theorem release (recorded : Recorded now history tables) {id : Int}
    (event : deed.event = .givenBack id) :
    Recorded now (history ++ [deed]) (tables.changeWork id fun row => some row.unclaim) := by
  have releasedRow (row : WorkRow) :
      row ∈ (tables.changeWork id fun row => some row.unclaim).work ↔
        row ∈ tables.work ∧ (row.id : Int) ≠ id ∨
          ∃ other ∈ tables.work, (other.id : Int) = id ∧ other.unclaim = row := by
    simp [Tables.mem_changeWork]
  constructor
  case ascending =>
    apply Tables.pairwise_changeWork recorded.ascending
    rintro row _ ⟨⟩ _
    rfl
  case row_lt => exact recorded.row_lt_concat (Nat.le_refl _) (by simp [event])
  case nextId_le => exact recorded.nextId_le
  case stored_iff =>
    intro id' queue payload
    rw [stored_concat, event, recorded.stored_iff]
    simp only [ne_eq, reduceCtorEq, not_false_eq_true, and_true, or_false, releasedRow]
    constructor
    · rintro ⟨row, member, rfl, rfl, rfl⟩
      by_cases same : (row.id : Int) = id
      · exact ⟨row.unclaim, .inr ⟨row, member, same, rfl⟩, rfl, rfl, rfl⟩
      · exact ⟨row, .inl ⟨member, same⟩, rfl, rfl, rfl⟩
    · rintro ⟨row, ⟨member, _⟩ | ⟨other, member, _, rfl⟩, rfl, rfl, rfl⟩
      · exact ⟨row, member, rfl, rfl, rfl⟩
      · exact ⟨other, member, rfl, rfl, rfl⟩
  case deliveries_eq =>
    intro row member
    rw [claims_concat]
    rcases (releasedRow row).mp member with ⟨old, _⟩ | ⟨other, old, _, rfl⟩
    · simpa [event] using recorded.deliveries_eq row old
    · simpa [event, WorkRow.unclaim] using recorded.deliveries_eq other old
  case claimed =>
    intro row member deadline until_eq
    rw [claimed_concat, event]
    rcases (releasedRow row).mp member with ⟨old, apart⟩ | ⟨other, _, _, rfl⟩
    · left
      refine ⟨recorded.claimed row old deadline until_eq, fun same => ?_⟩
      cases same
      exact apart rfl
    · cases until_eq
  case claimedUntil =>
    intro row member deadline claimed
    rw [claimed_concat, event] at claimed
    simp only [ne_eq, WorkEvent.givenBack.injEq, reduceCtorEq, or_false] at claimed
    rcases (releasedRow row).mp member with ⟨old, _⟩ | ⟨other, _, rfl, rfl⟩
    · exact recorded.claimedUntil row old deadline claimed.1
    · exact absurd rfl claimed.2

/-- What neither changes a row nor concerns one. -/
theorem overlook (recorded : Recorded now history tables)
    (event : deed.event = .missed ∨ ∃ rows, deed.event = .counted rows) :
    Recorded now (history ++ [deed]) tables := by
  have unnamed : ∀ id, deed.event.row? ≠ some id := by
    rcases event with event | ⟨_, event⟩ <;> simp [event]
  have silent (id : Nat) : (history ++ [deed]).claims id = history.claims id := by
    rcases event with event | ⟨_, event⟩ <;> simp [claims_concat, event]
  have unclaimed (id deadline : Nat) :
      (history ++ [deed]).Claimed id deadline ↔ history.Claimed id deadline := by
    rcases event with event | ⟨_, event⟩ <;> simp [claimed_concat, event]
  have unstored (id : Nat) (queue payload : String) :
      (history ++ [deed]).Stored id queue payload ↔ history.Stored id queue payload := by
    rcases event with event | ⟨_, event⟩ <;> simp [stored_concat, event]
  constructor
  case ascending => exact recorded.ascending
  case row_lt =>
    exact recorded.row_lt_concat (Nat.le_refl _) fun id named => absurd named (unnamed id)
  case nextId_le => exact recorded.nextId_le
  case stored_iff => simpa only [unstored] using recorded.stored_iff
  case deliveries_eq => simpa only [silent] using recorded.deliveries_eq
  case claimed => simpa only [unclaimed] using recorded.claimed
  case claimedUntil => simpa only [unclaimed] using recorded.claimedUntil

theorem congr (recorded : Recorded now history tables) {other : Tables}
    (work_eq : other.work = tables.work) (nextId_eq : other.nextId = tables.nextId) :
    Recorded now history other := by
  rcases recorded with ⟨ascending, row_lt, nextId_le, stored_iff, deliveries_eq, claimed, until_eq⟩
  constructor <;> simp only [work_eq, nextId_eq] <;> assumption

/-- A statement that does something to the work queue leaves it as its history tells. -/
theorem apply (recorded : Recorded now history tables) {statement : Statement}
    (does : tables.workEvent? now statement = some deed.event)
    (room : ∀ queue payload, statement = .publish queue payload →
      tables.nextId ≤ Statement.greatestInteger) :
    Recorded now (history ++ [deed]) (tables.apply now [] statement).2.1 := by
  cases statement with
  | publish queue payload =>
      rw [Tables.workEvent?, Option.some.injEq] at does
      exact recorded.publish does.symm (room queue payload rfl)
  | claim queue timeoutSecs =>
      rw [Tables.workEvent?] at does
      rw [Tables.apply]
      rcases Tables.claim_cases recorded.ascending with ⟨_, missed⟩ | ⟨row, member, free, _, claims⟩
      · rw [missed] at does ⊢
        exact recorded.overlook (.inl (Option.some.inj does).symm)
      · rw [claims] at does ⊢
        exact recorded.claim member free (Option.some.inj does).symm
  | remove id => exact recorded.remove (Option.some.inj does).symm
  | release id => exact recorded.release (Option.some.inj does).symm
  | depth queue => exact recorded.overlook (.inr ⟨_, (Option.some.inj does).symm⟩)
  | _ => cases does

theorem apply_of_none (recorded : Recorded now history tables) {statement : Statement}
    (does : tables.workEvent? now statement = none) :
    Recorded now history (tables.apply now [] statement).2.1 := by
  cases statement with
  | claim queue timeoutSecs =>
      rw [Tables.workEvent?] at does
      split at does <;> cases does
  | publish | remove | release | depth => cases does
  | _ => exact recorded.congr rfl rfl

end Recorded

end WorkHistory

end SwapLedger
