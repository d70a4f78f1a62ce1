import SwapLedger.Deployment
import SwapLedger.Indexer
import SwapLedger.Proofs.BackfillRanges
import SwapLedger.Proofs.DatabaseSessions
import SwapLedger.Proofs.LedgerHoles

/-!
# Recovery of missing blocks

When an instance starts it looks for the holes in the ledger and launches backfills for them. The
backfills together ask the nodes for every slot that is missing between the lowest and the highest
one that has been marked, each once, and for no other.
-/

namespace SwapLedger

namespace DatabaseSession

open SwapStore

variable {address : String} {connections : Nat} {session last : DatabaseSession}
  {slots : List Slot}

variable (address connections) in
/-- The sessions that come about when blocks are marked as processed, and the slots that have been
marked with success. What happens to the other tables in between does not matter. -/
inductive Written : DatabaseSession → List Slot → Prop where
  | nothing {session : DatabaseSession} (empty : session.tables.processed = []) : Written session []
  | marked {session last : DatabaseSession} {slots : List Slot} {slot : Slot}
      {calls : List (AnsweredCall Wire)} (written : Written session slots)
      (storable : slot.toNat ≤ Statement.greatestInteger)
      (reaches : (serve address connections (.markProcessed slot)).Reaches calls (.done (.ok ())))
      (leads : Servant.Leads Serves session calls last) : Written last (slot :: slots)
  | unmarked {session last : DatabaseSession} {slots : List Slot} {slot : Slot}
      {calls : List (AnsweredCall Wire)} {failure : Failure} (written : Written session slots)
      (reaches : (serve address connections (.markProcessed slot)).Reaches calls
        (.done (.error failure)))
      (leads : Servant.Leads Serves session calls last) : Written last slots
  | elsewhere {session other : DatabaseSession} {slots : List Slot}
      (written : Written session slots)
      (same : other.tables.processed = session.tables.processed) : Written other slots

theorem recounts_markProcessed {slot : Slot} :
    Recounts (Untorn session.tables (session.tables.mark slot))
      (AllOrNothing session.tables (session.tables.mark slot))
      (serve address connections (.markProcessed slot)) session := by
  refine .bind (recounts_query (.inl rfl) (fun _ => .inr rfl) ?_ ?_)
  · intro now calls talk
    exact Program.recounts_pure ⟨rfl, by simpa using talk⟩
  · intro failure uncommitted calls talk
    exact Program.recounts_pure ⟨rfl, by simpa using talk⟩

/-- The ledger holds just what has been marked. -/
structure Ledgers (session : DatabaseSession) (slots : List Slot) : Prop where
  wellLedgered : session.tables.WellLedgered
  mem_iff (number : Int) : number ∈ session.tables.processed ↔ ∃ slot ∈ slots, number = slot.toNat

theorem Ledgers.mark (ledgers : Ledgers session slots) {slot : Slot}
    (storable : slot.toNat ≤ Statement.greatestInteger)
    (marked : last.tables = session.tables.mark slot) : Ledgers last (slot :: slots) := by
  have exact : Tables.ledgerNumber slot = slot.toNat := by
    rw [Tables.ledgerNumber, Statement.integer]
    omega
  refine ⟨marked ▸ ledgers.wellLedgered.mark slot, fun number => ?_⟩
  rw [marked, Tables.mem_mark, ledgers.mem_iff, exact, List.exists_mem_cons_iff]

theorem Written.ledgers (written : Written address connections session slots) :
    Ledgers session slots := by
  induction written with
  | @nothing session empty =>
      refine ⟨⟨empty ▸ .nil, ?_⟩, fun number => ?_⟩
      · rw [empty]
        exact nofun
      · rw [empty]
        simp
  | marked _ storable reaches leads ih =>
      exact ih.mark storable ((recounts_markProcessed.reaches reaches leads (.inl rfl)).2 _ rfl).1
  | unmarked _ reaches leads ih =>
      have same := ((recounts_markProcessed.reaches reaches leads (.inl rfl)).2 _ rfl).1
      exact ⟨same ▸ ih.wellLedgered, same ▸ ih.mem_iff⟩
  | elsewhere _ same ih =>
      exact ⟨⟨same ▸ ih.wellLedgered.ascending, same ▸ ih.wellLedgered.storable⟩, same ▸ ih.mem_iff⟩

/-- A slot can be marked at any time. -/
theorem Written.mark (written : Written address connections session slots) {slot : Slot}
    (storable : slot.toNat ≤ Statement.greatestInteger) :
    Written address connections ⟨session.tables.mark slot, []⟩ (slot :: slots) := by
  have completes : (serve address connections (.markProcessed slot)).Completes Serves session
      (.ok ()) ⟨session.tables.mark slot, []⟩ :=
    Program.completes_bind.mpr ⟨_, _, completes_query 0 _, rfl, rfl⟩
  rcases completes.reaches with ⟨calls, reaches, leads⟩
  exact .marked written storable reaches leads

/-- Whether a slot is missing between the lowest and the highest of some slots. -/
def Hole (slots : List Slot) (slot : Slot) : Prop :=
  slot ∉ slots ∧ (∃ low ∈ slots, low < slot) ∧ ∃ high ∈ slots, slot < high

theorem Ledgers.mem_missing (ledgers : Ledgers session slots) {slot : Slot} :
    slot ∈ session.tables.missing ↔ Hole slots slot := by
  rw [Tables.mem_missing_iff ledgers.wellLedgered, Hole]
  simp only [ledgers.mem_iff, Int.ofNat_inj, UInt64.toNat_inj, exists_eq_right',
    UInt64.lt_iff_toNat_lt]
  refine and_congr_right fun _ => and_congr ?_ ?_
  · constructor
    · rintro ⟨_, ⟨low, member, rfl⟩, before⟩
      exact ⟨low, member, Int.ofNat_lt.mp before⟩
    · rintro ⟨low, member, before⟩
      exact ⟨_, ⟨low, member, rfl⟩, Int.ofNat_lt.mpr before⟩
  · constructor
    · rintro ⟨_, ⟨high, member, rfl⟩, after⟩
      exact ⟨high, member, Int.ofNat_lt.mp after⟩
    · rintro ⟨high, member, after⟩
      exact ⟨_, ⟨high, member, rfl⟩, Int.ofNat_lt.mpr after⟩

/-- The job that a call launches. -/
def launched? : AnsweredCall Wire → Option Job
  | ⟨.shared (.launch job), _⟩ => some job
  | _ => none

/-- The jobs that some calls launch, in order. -/
def launched (calls : List (AnsweredCall Wire)) : List Job := calls.filterMap launched?

/-- The job that backfills a range. -/
def backfill (range : SlotRange) : Job := .backfill range.first range.last

theorem Talk.launched {failing : Prop} {calls : List (AnsweredCall Wire)}
    (talk : Talk failing calls) : launched calls = [] := by
  rw [DatabaseSession.launched, List.filterMap_eq_nil_iff]
  rintro ⟨call, answer⟩ member
  rcases talk.database _ member with ⟨call, rfl⟩
  rfl

theorem recounts_launchBackfills {kept : Tables → Prop} {configuration : Configuration}
    (holds : kept session.tables) (ranges : List SlotRange) :
    Recounts kept
      (fun _ _ calls => launched calls = ranges.map backfill)
      (configuration.deploy (Indexer.launchBackfills ranges)) session := by
  induction ranges with
  | nil => exact Program.recounts_pure rfl
  | cons range ranges ih =>
      rintro ⟨⟩ _ rfl
      refine ⟨holds, ?_⟩
      intro answer next served
      cases served with
      | elsewhere =>
          refine ⟨holds, ih.mono ?_⟩
          intro _ last calls later
          rw [List.map_cons, ← later]
          rfl

/-- The jobs that are launched at the start are those for the ranges of missing slots, or there are
none if they cannot be found out. -/
theorem recounts_recoverGaps {configuration : Configuration} :
    Recounts (Untorn session.tables session.tables)
      (fun _ _ calls => (∃ answered ∈ calls, Failed answered) ∧ launched calls = [] ∨
        launched calls = (SlotRange.group session.tables.missing).map backfill)
      (configuration.deploy Indexer.recoverGaps) session := by
  change Recounts _ _ (SwapStore.serve configuration.databaseUrl SwapStore.standardConnections
    .missingBlocks >>= _) session
  refine .bind (.bind (recounts_query (.inl rfl) (fun _ => .inl rfl) ?_ ?_))
  · intro now calls talk
    refine Program.recounts_pure ((recounts_launchBackfills (.inl rfl) _).mono ?_)
    intro _ last later launches
    right
    rw [launched, List.filterMap_append, ← launched, ← launched, List.append_nil, talk.launched,
      List.nil_append, launches]
    rfl
  · intro failure uncommitted calls talk
    refine Program.recounts_pure ?_
    rintro ⟨⟩ _ rfl
    refine ⟨.inl rfl, .inl ?_⟩
    change (∃ answered ∈ calls ++ [] ++ [], _) ∧ launched (calls ++ [] ++ []) = []
    rw [List.append_nil, List.append_nil]
    exact ⟨talk.failing.mpr trivial, talk.launched⟩

/-- How backfills of some ranges make up for what is missing between slots that have been marked. -/
structure Recovers (configuration : Configuration) (slots : List Slot) (ranges : List SlotRange) :
    Prop where
  apart : ranges.Pairwise SlotRange.Before
  ordered : ∀ range ∈ ranges, range.first ≤ range.last
  /-- No range ends in the slot that stands for the newest one. -/
  nonzero : ∀ range ∈ ranges, range.last ≠ 0
  exists_range_iff (slot : Slot) :
    (∃ range ∈ ranges, range.first ≤ slot ∧ slot ≤ range.last) ↔ Hole slots slot
  /-- Unless they are told to stop, the backfills together ask for each hole once, and for nothing
  else, however they take turns. -/
  requested (answers : SlotRange → Nat → (request : Request Services) → request.Answer)
    (undisturbed : ∀ range number, answers range number .stopRequested = false)
    {calls : List (AnsweredCall Services)}
    (mixed : calls.Perm (ranges.flatMap fun range =>
      (((backfill range).turn configuration).run (answers range) 0).1)) :
    (calls.filterMap Backfill.requested?).Nodup ∧
      ∀ slot, slot ∈ calls.filterMap Backfill.requested? ↔ Hole slots slot

theorem Ledgers.recovers {configuration : Configuration} (ledgers : Ledgers session slots) :
    Recovers configuration slots (SlotRange.group session.tables.missing) := by
  have groups := SlotRange.groups_group session.tables.missing
  have ascending := Tables.pairwise_missing ledgers.wellLedgered
  have listed (slot : Slot) : (∃ range ∈ SlotRange.group session.tables.missing,
      range.first ≤ slot ∧ slot ≤ range.last) ↔ Hole slots slot := by
    have inRanges : slot ∈ (SlotRange.group session.tables.missing).flatMap SlotRange.slots ↔ _ :=
      List.mem_flatMap
    rw [groups.flatMap_slots, ledgers.mem_missing] at inRanges
    simp only [inRanges, SlotRange.mem_slots_iff]
  have nonzero : ∀ range ∈ SlotRange.group session.tables.missing, range.last ≠ 0 := by
    intro range member
    have ordered := groups.first_le_last range member
    rcases ((listed range.last).mp ⟨range, member, ordered, UInt64.le_refl _⟩).2.1 with
      ⟨low, _, before⟩
    rintro zero
    rw [zero] at before
    exact UInt64.not_lt_zero before
  refine ⟨groups.pairwise_before ascending, groups.first_le_last, nonzero, listed, ?_⟩
  intro answers undisturbed calls mixed
  have requested : (calls.filterMap Backfill.requested?).Perm session.tables.missing := by
    refine (mixed.filterMap Backfill.requested?).trans (.of_eq ?_)
    rw [List.filterMap_flatMap]
    refine (List.flatMap_congr fun range member => ?_).trans groups.flatMap_slots
    exact Backfill.requests_turn (groups.first_le_last range member) (nonzero range member)
      (answers range) (undisturbed range) 0
  refine ⟨requested.nodup_iff.mpr (ascending.imp UInt64.ne_of_lt), fun slot => ?_⟩
  rw [requested.mem_iff, ledgers.mem_missing]

/-- Recovery attempts just the holes: the backfills that are launched at the start have ascending
ranges that do not touch, which together contain the slots that are missing between the lowest and
the highest one in the ledger; and they ask for each of these once. If the database fails, none is
launched. -/
theorem recoverGaps_recovers {configuration : Configuration} {calls : List (AnsweredCall Wire)}
    (written : Written address connections session slots)
    (reaches : (configuration.deploy Indexer.recoverGaps).Reaches calls (.done ()))
    (leads : Servant.Leads Serves session calls last) :
    (∃ answered ∈ calls, Failed answered) ∧ launched calls = [] ∨
      ∃ ranges, launched calls = ranges.map backfill ∧ Recovers configuration slots ranges :=
  ((recounts_recoverGaps.reaches reaches leads (.inl rfl)).2 () rfl).imp_right fun launches =>
    ⟨_, launches, written.ledgers.recovers⟩

/-- After the slots 5 and 9 have been marked, those between them are recovered. -/
theorem recoverGaps_recovers_between : ∃ (configuration : Configuration) (session last :
    DatabaseSession) (calls : List (AnsweredCall Wire)) (ranges : List SlotRange),
    Written "" 1 session [9, 5] ∧
      (configuration.deploy Indexer.recoverGaps).Reaches calls (.done ()) ∧
      Servant.Leads Serves session calls last ∧ launched calls = [.backfill 6 8] ∧
      launched calls = ranges.map backfill ∧ Recovers configuration [9, 5] ranges := by
  let configuration : Configuration := ⟨["http://node"], "ws://node", "", .confirmed, .standard,
    .node, .reconnect, .insert, .standard, .standard, .standard⟩
  let session : DatabaseSession := ⟨(Tables.empty.mark 5).mark 9, []⟩
  let calls : List (AnsweredCall Wire) := [⟨.database .acquire, some (.ok ())⟩,
    ⟨.database (.execute .findMissing), some (.ok [6, 7, 8])⟩,
    ⟨.database (.giveBack false), some ()⟩, ⟨.shared (.launch (.backfill 6 8)), some ()⟩]
  have unused : Written "" 1 ⟨.empty, []⟩ [] := .nothing rfl
  have written : Written "" 1 session [9, 5] := (unused.mark (by decide)).mark (by decide)
  have reaches : (configuration.deploy Indexer.recoverGaps).Reaches calls (.done ()) := by
    refine @Program.Reaches.ask Wire _ (.call (.database .acquire)) _ _ _ (.ok ()) ?_
    refine @Program.Reaches.ask Wire _ (.call (.database (.execute .findMissing))) _ _ _
      (.ok [6, 7, 8]) ?_
    refine @Program.Reaches.ask Wire _ (.call (.database (.giveBack false))) _ _ _ () ?_
    refine @Program.Reaches.ask Wire _ (.report _) _ _ _ () ?_
    exact @Program.Reaches.ask Wire _ (.call (.shared (.launch (.backfill 6 8)))) _ _ _ () (.here _)
  have leads : Servant.Leads Serves session calls session :=
    .next (.elsewhere nofun nofun) (.next (.carriedOut 0) (.next (.givenBack false)
      (.next (.elsewhere nofun nofun) (.nothing _))))
  rcases recoverGaps_recovers written reaches leads with ⟨_, nothing⟩ | ⟨ranges, same, recovers⟩
  · cases nothing
  · exact ⟨configuration, session, session, calls, ranges, written, reaches, leads, rfl, same,
      recovers⟩

end DatabaseSession

end SwapLedger
