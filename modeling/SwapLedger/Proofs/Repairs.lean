import SwapLedger.Proofs.LostSwaps
import SwapLedger.Proofs.ProvidedServices

/-!
# Repairs

A delivery that comes again may find rows of its transactions that an earlier attempt has left,
whichever they are. The worker removes them before it stores the swaps that it finds itself, so that
afterwards the table holds just those of the item's rows that a first delivery would have stored,
and all other rows as they were.
-/

namespace SwapLedger

namespace SwapRecord

variable {rows added : List SwapRecord} {ids : List String}

/-- Whether a row is there already is found out among the rows of its transaction. -/
theorem mem_map_key_filter {row : SwapRecord} {chosen : String → Bool}
    (own : chosen row.id = true) :
    row.key ∈ (rows.filter fun other => chosen other.id).map key ↔ row.key ∈ rows.map key := by
  simp only [List.mem_map, List.mem_filter]
  constructor
  · rintro ⟨other, ⟨member, _⟩, same⟩
    exact ⟨other, member, same⟩
  · rintro ⟨other, member, same⟩
    have id_eq : other.id = row.id := congrArg Key.id same
    exact ⟨other, ⟨member, id_eq ▸ own⟩, same⟩

/-- Rows that are added lie with those of their transactions. -/
theorem filter_addAllByKey {chosen : String → Bool} (own : ∀ row ∈ added, chosen row.id = true) :
    (addAllByKey rows added).filter (fun row => chosen row.id) =
      addAllByKey (rows.filter fun row => chosen row.id) added := by
  induction added generalizing rows with
  | nil => rfl
  | cons row added ih =>
      rcases List.forall_mem_cons.mp own with ⟨first, rest⟩
      have one : (addByKey rows row).filter (fun row => chosen row.id) =
          addByKey (rows.filter fun row => chosen row.id) row := by
        simp only [addByKey, mem_map_key_filter first]
        split
        · rfl
        · simp [first]
      rw [addAllByKey, List.foldl_cons, ← addAllByKey, ih rest, one]
      rfl

/-- Rows added under other signatures do not change the chosen ones. -/
theorem filter_addAllByKey_of_not {chosen : String → Bool}
    (others : ∀ row ∈ added, chosen row.id = false) :
    (addAllByKey rows added).filter (fun row => chosen row.id) =
      rows.filter fun row => chosen row.id := by
  induction added generalizing rows with
  | nil => rfl
  | cons row added ih =>
      rcases List.forall_mem_cons.mp others with ⟨first, rest⟩
      rw [addAllByKey, List.foldl_cons, ← addAllByKey, ih rest, addByKey]
      split
      · rfl
      · simp [first]

end SwapRecord

namespace Worker

open Services

/-- Whether no removal of swaps has failed. -/
def RemovalsSucceed (calls : List (AnsweredCall Services)) : Prop :=
  ∀ signature failure,
    (⟨.store (.deleteSwaps signature), some (.error failure)⟩ : AnsweredCall Services) ∉ calls

/-- Whether of the rows of an item just those are left that are found in it, and all other rows as
before. -/
structure Repaired (worker : Worker) (item : WorkItem) (before after : List SwapRecord) : Prop where
  own : after.filter (fun row => item.signatures.contains row.id) =
    SwapRecord.addAllByKey [] ((item.swaps worker.registry).map (·.toRow))
  others : after.filter (fun row => !item.signatures.contains row.id) =
    before.filter (fun row => !item.signatures.contains row.id)

variable {worker : Worker} {configuration : Configuration} {session : DatabaseSession}
  {swaps : List SwapRecord}

theorem not_stores_of_limited {calls : List (AnsweredCall Services)} {only : ServiceCall → Bool}
    (limited : ∀ answered ∈ calls, only answered.call = true)
    (barred : only (.store (.insertSwaps swaps)) = false) : ¬ Stores swaps calls := by
  intro stores
  have made := limited _ stores
  rw [barred] at made
  cases made

theorem stores_append {calls later : List (AnsweredCall Services)} :
    Stores swaps (calls ++ later) ↔ Stores swaps calls ∨ Stores swaps later :=
  List.mem_append

theorem removalsSucceed_of_limited {calls : List (AnsweredCall Services)}
    {only : ServiceCall → Bool} (limited : ∀ answered ∈ calls, only answered.call = true)
    (barred : ∀ signature, only (.store (.deleteSwaps signature)) = false) :
    RemovalsSucceed calls := by
  intro signature failure member
  have made := limited _ member
  rw [barred] at made
  cases made

theorem RemovalsSucceed.append {calls later : List (AnsweredCall Services)}
    (succeed : RemovalsSucceed calls) (rest : RemovalsSucceed later) :
    RemovalsSucceed (calls ++ later) := fun signature failure member =>
  (List.mem_append.mp member).elim (succeed signature failure) (rest signature failure)

theorem RemovalsSucceed.of_append {calls later : List (AnsweredCall Services)}
    (succeed : RemovalsSucceed (calls ++ later)) :
    RemovalsSucceed calls ∧ RemovalsSucceed later :=
  ⟨fun signature failure member => succeed signature failure (List.mem_append_left _ member),
    fun signature failure member => succeed signature failure (List.mem_append_right _ member)⟩

/-- The rows of the cleared transactions are gone, unless a removal has failed. The rows that are
left are filtered again for each signature, so that the order does not matter. -/
theorem recounts_clear (signatures : List String) (session : DatabaseSession) :
    configuration.Recounts (fun _ last calls => RemovalsSucceed calls →
      last.tables.swaps = session.tables.swaps.filter fun row => !signatures.contains row.id)
      (worker.clear signatures) session := by
  induction signatures generalizing session with
  | nil =>
      refine Program.recounts_pure fun _ => ?_
      simp
  | cons signature rest ih =>
      apply Program.Recounts.bind
      rintro (failure | count) middle provided
      · refine ⟨trivial, ?_⟩
        refine Configuration.recounts_sparing_bind (Program.silent_request rfl) ?_
        intro _ reported calls _ _
        refine (ih reported).mono ?_
        intro _ last later _ succeed
        exact absurd List.mem_cons_self (succeed signature failure)
      · refine ⟨trivial, (ih middle).mono ?_⟩
        intro _ last later cleared succeed
        have removed : middle.tables.swaps = session.tables.swaps.filter (·.id != signature) :=
          Configuration.Provides.removed provided
        rw [cleared succeed.of_append.2, removed, List.filter_filter]
        refine List.filter_congr fun row _ => ?_
        by_cases same : row.id = signature
        · simp [same]
        · simp [same]

/-- How attempts to store swaps end: either an attempt has succeeded, or none has. -/
def Attempted (swaps before : List SwapRecord) (outcome : Option (Except Failure Unit))
    (last : DatabaseSession) (calls : List (AnsweredCall Services)) : Prop :=
  (outcome = some (.ok ()) ∧
      last.tables.swaps = SwapRecord.addAllByKey before (swaps.map (·.toRow))) ∨
    outcome ≠ some (.ok ()) ∧ ¬ Stores swaps calls

theorem attempted_of_none {before : List SwapRecord} {last : DatabaseSession}
    {calls : List (AnsweredCall Services)} (unstored : ¬ Stores swaps calls) :
    Attempted swaps before none last calls :=
  .inr ⟨by simp, unstored⟩

/-- Attempts may end with a failure when none has stored the swaps. -/
theorem attempted_of_error {before : List SwapRecord} {failure : Failure} {last : DatabaseSession}
    {calls : List (AnsweredCall Services)} (unstored : ¬ Stores swaps calls) :
    Attempted swaps before (some (.error failure)) last calls :=
  .inr ⟨by simp, unstored⟩

theorem Attempted.append {before : List SwapRecord} {outcome : Option (Except Failure Unit)}
    {last : DatabaseSession} {calls later : List (AnsweredCall Services)}
    (attempted : Attempted swaps before outcome last later) (unstored : ¬ Stores swaps calls) :
    Attempted swaps before outcome last (calls ++ later) := by
  refine attempted.imp_right ?_
  rintro ⟨failed, later⟩
  exact ⟨failed, fun stores => (stores_append.mp stores).elim unstored later⟩

/-- An attempt either stores the swaps and succeeds, or fails and leaves the rows as they are. -/
theorem recounts_attempt
    {ends : Option (Except Failure Unit) → DatabaseSession → List (AnsweredCall Services) → Prop}
    (stored : ∀ last calls,
      last.tables.swaps = SwapRecord.addAllByKey session.tables.swaps (swaps.map (·.toRow)) →
      ends (some (.ok ())) last calls)
    (failed : ∀ failure last calls, last.tables.swaps = session.tables.swaps →
      ¬ Stores swaps calls → ends (some (.error failure)) last calls)
    (givenUp : ∀ last calls, ¬ Stores swaps calls → ends none last calls) :
    configuration.Recounts ends (Services.store (.insertSwaps swaps)).unlessStopped session := by
  rw [Services.store, Program.unlessStopped]
  rintro (_ | failure | ⟨⟩) last provided
  · refine ⟨trivial, givenUp last _ ?_⟩
    simp [Stores, Request.answeredCall?, Request.call?]
  · refine ⟨trivial, failed failure last _ (Configuration.Provides.unstored provided) ?_⟩
    simp [Stores, Request.answeredCall?]
  · exact ⟨trivial, stored last _ (Configuration.Provides.stored provided)⟩

theorem recounts_attempted_bind {Result : Type} {before : List SwapRecord}
    {program : Program Services Result} {next : Result → Program Services (Except Failure Unit)}
    (silent : program.Silent (.except ServiceCall.sparing))
    (later : ∀ result middle, middle.tables.swaps = session.tables.swaps →
      configuration.Recounts (Attempted swaps before) (next result).unlessStopped middle) :
    configuration.Recounts (Attempted swaps before) (program >>= next).unlessStopped session := by
  refine Configuration.recounts_sparing_unlessStopped_bind silent ?_ ?_
  · intro last calls _ spared
    exact attempted_of_none (not_stores_of_limited spared rfl)
  · intro result middle calls same spared
    refine (later result middle same).mono ?_
    intro outcome last more attempted
    exact attempted.append (not_stores_of_limited spared rfl)

/-- However often it takes, swaps are stored once, and only if an attempt succeeds: what follows a
failed attempt stores nothing but what later attempts store. -/
theorem recounts_retryingFrom {policy : RetryPolicy} {operation : String}
    (retriesLeft number : Nat) (session : DatabaseSession) :
    configuration.Recounts (Attempted swaps session.tables.swaps)
      (policy.retryingFrom operation (Services.store (.insertSwaps swaps)) retriesLeft
        number).unlessStopped session := by
  have goesOn {rest : Program Services (Except Failure Unit)} {before : List SwapRecord}
      {last : DatabaseSession} {calls : List (AnsweredCall Services)}
      (unstored : ¬ Stores swaps calls)
      (recounts : configuration.Recounts (Attempted swaps before) rest.unlessStopped last) :
      configuration.Recounts
        (fun outcome final more => Attempted swaps before outcome final (calls ++ more))
        rest.unlessStopped last :=
    recounts.mono fun _ _ _ attempted => attempted.append unstored
  have ended (before : List SwapRecord) (last : DatabaseSession) (failure : Failure) :
      configuration.Recounts (Attempted swaps before)
        (pure (.error failure) : Program Services (Except Failure Unit)).unlessStopped last :=
    Program.recounts_pure (attempted_of_error List.not_mem_nil)
  induction retriesLeft using Nat.strongRecOn generalizing number session with
  | ind retriesLeft ih =>
      rw [RetryPolicy.retryingFrom.eq_def, Program.unlessStopped_bind]
      refine .bind (recounts_attempt ?_ ?_ ?_)
      · intro last calls stored
        exact Program.recounts_pure (.inl ⟨rfl, stored⟩)
      · intro failure last calls same unstored
        apply goesOn unstored
        by_cases transient : failure.isTransient = false
        · simpa only [transient, if_true] using ended _ last failure
        · simp only [transient, Bool.true_eq_false, if_false]
          cases retriesLeft with
          | zero => exact ended _ last _
          | succ retriesLeft =>
              refine recounts_attempted_bind (Program.silent_request rfl) fun _ drawn first => ?_
              refine recounts_attempted_bind (Program.silent_request rfl) fun _ told second => ?_
              refine recounts_attempted_bind (Program.silent_request rfl) fun _ waited third => ?_
              have again := ih retriesLeft (Nat.lt_succ_self _) (number + 1) waited
              rwa [third, second, first, same] at again
      · intro last calls unstored
        exact Program.recounts_pure (attempted_of_none (by simpa using unstored))

/-- Attempts in a row store the swaps once or leave the rows as they are. -/
theorem recounts_insert (session : DatabaseSession) :
    configuration.Recounts (Attempted swaps session.tables.swaps)
      (worker.insert swaps).unlessStopped session := by
  rw [insert, Program.unlessStopped_bind]
  refine .bind ((recounts_retryingFrom _ _ session).mono ?_)
  rintro (_ | failure | ⟨⟩) last calls attempted
  · exact Program.recounts_pure (by simpa using attempted)
  · rcases attempted with ⟨ended, _⟩ | ⟨_, unstored⟩
    · cases ended
    · exact Program.recounts_pure (attempted_of_error (by simpa using unstored))
  · exact Program.recounts_pure (by simpa [Except.mapError] using attempted)

/-- If the swaps of an item are seen to be stored, they have been added to the rows that were there.
When the attempts have failed, nothing else can have stored them. -/
theorem recounts_storeSwaps {item : WorkItem} {tag started : Nat} (session : DatabaseSession) :
    configuration.Recounts (fun _ last calls =>
      (item.swaps worker.registry ≠ [] → Stores (item.swaps worker.registry) calls) →
      last.tables.swaps = SwapRecord.addAllByKey session.tables.swaps
        ((item.swaps worker.registry).map (·.toRow)))
      (worker.storeSwaps tag item started) session := by
  have settling {Result : Type} {program : Program Services Result}
      (silent : program.Silent (.except settling)) :=
    silent.widen fun _ => ServiceCall.sparing_of_settling
  rw [storeSwaps]
  refine Configuration.recounts_sparing_bind Program.silent_reportAll ?_
  intro _ told calls same_told spared_told
  refine Configuration.recounts_sparing_bind (settling (addLookups_settling _)) ?_
  intro _ asked more same_asked spared_asked
  cases swaps : item.swaps worker.registry with
  | nil =>
      refine Configuration.recounts_sparing (settling (finish_settling _ _ _)) ?_
      intro _ last later same _ _
      rw [same, same_asked, same_told]
      rfl
  | cons first rest =>
      refine .bind ((recounts_insert asked).mono ?_)
      rintro outcome inserted attempts (⟨rfl, stored⟩ | ⟨failed, unstored⟩)
      · refine Configuration.recounts_sparing (settling (finish_settling _ _ _)) ?_
        intro _ last later same _ _
        rw [same, stored, same_asked, same_told]
      · have never {Result : Type} {program : Program Services Result}
            (silent : program.Silent (.except ServiceCall.sparing)) :
            configuration.Recounts (fun _ last later =>
              (first :: rest ≠ [] →
                Stores (first :: rest) (calls ++ (more ++ (attempts ++ later)))) →
              last.tables.swaps = SwapRecord.addAllByKey session.tables.swaps
                ((first :: rest).map (·.toRow))) program inserted := by
          refine Configuration.recounts_sparing silent ?_
          intro _ last later _ spared stores
          simp only [stores_append, not_stores_of_limited spared_told rfl,
            not_stores_of_limited spared_asked rfl, unstored, not_stores_of_limited spared rfl,
            or_false] at stores
          exact absurd (List.cons_ne_nil first rest) stores
        rcases outcome with _ | failure | ⟨⟩
        · exact never (settling (settle_settling _ _))
        · exact never ((Program.silent_request rfl).bind fun _ => settling (settle_settling _ _))
        · exact absurd rfl failed

/-- Handling an item whose rows are cleared first, or were never there, leaves the others and the
rows of its swaps. -/
theorem recounts_handleItem {item : WorkItem} {tag : Nat} {redelivered : Bool}
    {session : DatabaseSession}
    (clean : redelivered = true ∨ ∀ row ∈ session.tables.swaps, row.id ∉ item.signatures) :
    configuration.Recounts (fun _ last calls => RemovalsSucceed calls →
      (item.swaps worker.registry ≠ [] → Stores (item.swaps worker.registry) calls) →
      last.tables.swaps = SwapRecord.addAllByKey
        (session.tables.swaps.filter fun row => !item.signatures.contains row.id)
        ((item.swaps worker.registry).map (·.toRow)))
      (worker.handleItem tag redelivered item) session := by
  rw [handleItem_eq]
  refine Configuration.recounts_sparing_bind (Program.silent_request rfl) ?_
  intro started asked calls same_asked spared
  cases redelivered with
  | false =>
      have none_left : ∀ row ∈ session.tables.swaps, row.id ∉ item.signatures :=
        clean.resolve_left nofun
      refine (recounts_storeSwaps asked).mono ?_
      intro _ last later stored _ stores
      rw [stored, same_asked, List.filter_eq_self.mpr]
      · intro row member
        simpa using none_left row member
      · intro swaps_ne
        exact (stores_append.mp (stores swaps_ne)).resolve_left (not_stores_of_limited spared rfl)
  | true =>
      refine .bind (((recounts_clear _ asked).limited (clear_clearing _)).mono ?_)
      rintro _ cleared removals ⟨removed, limited⟩
      refine (recounts_storeSwaps cleared).mono ?_
      intro _ last later stored succeed stores
      rw [stored, removed succeed.of_append.2.of_append.1, same_asked]
      intro swaps_ne
      have stores := stores swaps_ne
      simpa only [stores_append, not_stores_of_limited spared rfl,
        not_stores_of_limited limited rfl, false_or] using stores

theorem repaired_of_added {item : WorkItem} {before after : List SwapRecord}
    (added : after = SwapRecord.addAllByKey
      (before.filter fun row => !item.signatures.contains row.id)
      ((item.swaps worker.registry).map (·.toRow))) : worker.Repaired item before after := by
  have own : ∀ row ∈ (item.swaps worker.registry).map (·.toRow),
      item.signatures.contains row.id = true := by
    intro row member
    rcases List.mem_map.mp member with ⟨swap, found, rfl⟩
    exact List.contains_iff_mem.mpr (show swap.id ∈ _ from WorkItem.id_mem_signatures found)
  have foreign : ∀ row ∈ (item.swaps worker.registry).map (·.toRow),
      (!item.signatures.contains row.id) = false := by
    intro row member
    rw [own row member, Bool.not_true]
  subst added
  constructor
  · rw [SwapRecord.filter_addAllByKey own, List.filter_filter]
    simp
  · rw [@SwapRecord.filter_addAllByKey_of_not _ _ (fun id => !item.signatures.contains id) foreign,
      List.filter_filter]
    simp

/-- A delivery that comes again repairs whatever an earlier attempt has left. Whichever rows are
there, if no removal fails and the swaps that are found get stored in the end, then of the rows of
the item's transactions just those are left that are found in it, each key once, as after a first
delivery that finds none; all other rows are as before. -/
theorem repaired_of_handle {delivery : Delivery} {item : WorkItem} {last : DatabaseSession}
    {calls : List (AnsweredCall Services)} {settlement : Settlement}
    (readable : WorkItem.ofPayload? delivery.payload = some item)
    (clean : delivery.redelivered = true ∨
      ∀ row ∈ session.tables.swaps, row.id ∉ item.signatures)
    (reaches : (worker.handle delivery).Reaches calls (.done settlement))
    (leads : Servant.Leads configuration.Provides session calls last)
    (removed : RemovalsSucceed calls)
    (stored : item.swaps worker.registry ≠ [] → Stores (item.swaps worker.registry) calls) :
    worker.Repaired item session.tables.swaps last.tables.swaps := by
  rw [handle, readable] at reaches
  have recounts := @recounts_handleItem worker configuration item delivery.tag _ session clean
  exact repaired_of_added ((recounts.reaches reaches leads trivial).2 _ rfl removed stored)

/-! ### Repairs that nothing gets in the way of -/

section Possible

variable (worker configuration) (session)

/-- Rows can be cleared without a failure. -/
theorem exists_hasRun_clear (signatures : List String) :
    ∃ calls last, (worker.clear signatures).HasRun configuration.Provides session calls () last ∧
      RemovalsSucceed calls := by
  induction signatures generalizing session with
  | nil => exact ⟨[], session, Program.hasRun_pure, nofun⟩
  | cons signature rest ih =>
      rcases configuration.exists_provides_deleteSwaps signature session with
        ⟨count, middle, removed⟩
      rcases ih middle with ⟨calls, last, run, succeed⟩
      refine ⟨_, last, (Program.hasRun_call removed).bind run, ?_⟩
      refine RemovalsSucceed.append ?_ succeed
      intro other failure member
      cases List.mem_singleton.mp member

theorem completes_addLookups (addresses : List Address) :
    (addLookups addresses).Completes configuration.Provides session () session := by
  induction addresses with
  | nil => exact ⟨rfl, rfl⟩
  | cons address rest ih =>
      exact ⟨false, session, Configuration.provides_shared (.addLookup address) false, ih⟩

theorem exists_completes_finish (tag : Nat) (item : WorkItem) (started : Nat) :
    ∃ last, (worker.finish tag item started).Completes configuration.Provides session
      .acknowledged last := by
  rcases configuration.exists_provides_acknowledge tag session with ⟨last, acknowledged⟩
  have settled : (worker.settle tag .acknowledged).Completes configuration.Provides session
      .acknowledged last := ⟨.ok (), last, acknowledged, rfl, rfl⟩
  refine ⟨last, Program.completes_bind.mpr ⟨_, last, settled, ?_⟩⟩
  dsimp only
  split
  · exact ⟨(), last, Configuration.provides_shared (.broadcast _) (), 0, last, rfl, (), last, rfl,
      rfl, rfl⟩
  · exact ⟨0, last, rfl, (), last, rfl, rfl, rfl⟩

theorem exists_hasRun_insert (swaps : List SwapRecord) :
    ∃ last, (worker.insert swaps).unlessStopped.HasRun configuration.Provides session
      [⟨.store (.insertSwaps swaps), some (.ok ())⟩] (some (.ok ())) last := by
  rcases configuration.exists_provides_insertSwaps swaps session with ⟨last, stored⟩
  refine ⟨last, .unlessStopped ?_⟩
  rw [insert]
  exact (Program.hasRun_call stored).retrying.bind Program.hasRun_pure

theorem exists_hasRun_of_settling {Result : Type} {program : Program Services Result}
    {result : Result} {last : DatabaseSession} (silent : program.Silent (.except settling))
    (completes : program.Completes configuration.Provides session result last) :
    ∃ calls, program.HasRun configuration.Provides session calls result last ∧
      RemovalsSucceed calls := by
  rcases completes.hasRun with ⟨calls, run⟩
  exact ⟨calls, run, removalsSucceed_of_limited (silent.of_reaches run.reaches) fun _ => rfl⟩

theorem exists_hasRun_storeSwaps (tag : Nat) (item : WorkItem) (started : Nat) :
    ∃ calls last, (worker.storeSwaps tag item started).HasRun configuration.Provides session calls
        .acknowledged last ∧
      RemovalsSucceed calls ∧
      (item.swaps worker.registry ≠ [] → Stores (item.swaps worker.registry) calls) := by
  have reported : (Program.reportAll (item.detectionLog worker.registry)).Completes
      configuration.Provides session () session := Program.completes_reportAll
  rcases exists_hasRun_of_settling configuration session Program.silent_reportAll reported with
    ⟨told, tells, kept_told⟩
  rcases exists_hasRun_of_settling configuration session (addLookups_settling _)
    (completes_addLookups configuration session
      ((item.swaps worker.registry).flatMap (·.lookups))) with ⟨asked, asks, kept_asked⟩
  have finishes (session : DatabaseSession) : ∃ calls last,
      (worker.finish tag item started).HasRun configuration.Provides session calls .acknowledged
        last ∧ RemovalsSucceed calls := by
    rcases exists_completes_finish worker configuration session tag item started with
      ⟨last, completes⟩
    rcases exists_hasRun_of_settling configuration session (finish_settling _ _ _) completes with
      ⟨calls, run, kept⟩
    exact ⟨calls, last, run, kept⟩
  rw [storeSwaps]
  cases swaps : item.swaps worker.registry with
  | nil =>
      rw [swaps] at asks
      rcases finishes session with ⟨settled, last, settles, kept_settled⟩
      refine ⟨_, last, tells.bind (asks.bind settles), ?_, fun some => absurd rfl some⟩
      exact kept_told.append (kept_asked.append kept_settled)
  | cons first rest =>
      rw [swaps] at asks
      rcases exists_hasRun_insert worker configuration session (first :: rest) with
        ⟨middle, inserts⟩
      rcases finishes middle with ⟨settled, last, settles, kept_settled⟩
      refine ⟨_, last, tells.bind (asks.bind (inserts.bind settles)), ?_, ?_⟩
      · refine kept_told.append (kept_asked.append (RemovalsSucceed.append ?_ kept_settled))
        intro other failure member
        cases List.mem_singleton.mp member
      · intro _
        simp [Stores]

/-- Whatever is there, a delivery that comes again can be dealt with in such a way. -/
theorem exists_hasRun_handle {item : WorkItem} {payload : String}
    (readable : WorkItem.ofPayload? payload = some item) (tag : Nat) :
    ∃ calls last, (worker.handle ⟨tag, payload, true⟩).HasRun configuration.Provides session calls
        .acknowledged last ∧
      RemovalsSucceed calls ∧
      (item.swaps worker.registry ≠ [] → Stores (item.swaps worker.registry) calls) := by
  rcases exists_hasRun_clear worker configuration session item.signatures with
    ⟨removals, cleared, clears, removed⟩
  rcases exists_hasRun_storeSwaps worker configuration cleared tag item 0 with
    ⟨calls, last, stores, kept, stored⟩
  have started : (Program.clock : Program Services Nat).HasRun configuration.Provides session [] 0
      session := ⟨.ask 0 (.here _), .nothing _⟩
  rw [handle, readable]
  refine ⟨_, last, started.bind (clears.bind stores), ?_, ?_⟩
  · exact removed.append kept
  · intro swaps_ne
    exact List.mem_append_right [] (List.mem_append_right removals (stored swaps_ne))

end Possible

/-- A row that an earlier attempt may have left, and one of another transaction. -/
def leftOver : DatabaseSession :=
  ⟨{ Tables.empty with swaps := [
    { DatabaseSession.share "stale" with id := Transaction.routedTrades.signature },
    DatabaseSession.share "other"] }, []⟩

/-- The row that was left is gone, and the other one is still there. -/
theorem repaired_leftOver : ∃ calls last,
    ((Shift.pool.worker 0).handle ⟨1, Shift.routedItem.toPayload, true⟩).HasRun
        Configuration.oneNode.Provides leftOver calls .acknowledged last ∧
      RemovalsSucceed calls ∧ Stores (Shift.routedItem.swaps .standard) calls ∧
      (Shift.pool.worker 0).Repaired Shift.routedItem leftOver.tables.swaps last.tables.swaps ∧
      last.tables.swaps.filter (fun row => !Shift.routedItem.signatures.contains row.id) =
        [DatabaseSession.share "other"] := by
  rcases exists_hasRun_handle (Shift.pool.worker 0) .oneNode leftOver Shift.ofPayload?_routedItem 1
    with ⟨calls, last, run, removed, stored⟩
  let delivery : Delivery := ⟨1, Shift.routedItem.toPayload, true⟩
  have readable : WorkItem.ofPayload? delivery.payload = some Shift.routedItem :=
    Shift.ofPayload?_routedItem
  have repaired := repaired_of_handle readable (.inl rfl) run.reaches run.leads removed stored
  refine ⟨calls, last, run, removed, stored Shift.swaps_routedItem_ne, repaired, ?_⟩
  exact repaired.others.trans rfl

end Worker

end SwapLedger
