import SwapLedger.Proofs.DatabaseSessions

/-!
# Insertion of swaps

Swaps are stored by one transaction that inserts them some at a time. What becomes of them does not
depend on how they are cut into pieces: either the tables are as if each swap had been added in its
turn, unless its key was there already, or they are as before. Of swaps that have the same key only
the first is stored, even when they tell of different wallets, exchanges or tokens.
-/

namespace SwapLedger

/-- The tables after rows of swaps have been added one by one, each unless its key is there. -/
def Tables.storing (tables : Tables) (rows : List SwapRecord) : Tables :=
  { tables with swaps := SwapRecord.addAllByKey tables.swaps rows }

namespace SwapStore

theorem flatten_chunks {Item : Type} {size : Nat} (positive : size ≠ 0) (items : List Item) :
    (chunks size items).flatten = items := by
  induction items using chunks.induct size with
  | case1 items ended =>
      rw [chunks, dif_pos ended]
      exact (ended.resolve_right positive).symm
  | case2 items more ih =>
      rw [chunks, dif_neg more, List.flatten_cons, ih, List.take_append_drop]

end SwapStore

namespace DatabaseSession

open SwapStore

variable {Error : Type} {session last : DatabaseSession} {rows : List SwapRecord}
  {program : Program Wire (Except Error Unit)}

/-- Whether a program stores rows of swaps, all or none. -/
structure StoresWhole (program : Program Wire (Except Error Unit)) (rows : List SwapRecord) : Prop
  where
  /-- Wherever a run stops, all rows have been stored or none. -/
  undivided {session last : DatabaseSession} {calls : List (AnsweredCall Wire)}
    {rest : Program Wire (Except Error Unit)} (reaches : program.Reaches calls rest)
    (leads : Servant.Leads Serves session calls last) :
    last.tables = session.tables ∨ last.tables = session.tables.storing rows
  stored {session last : DatabaseSession} {calls : List (AnsweredCall Wire)}
    (reaches : program.Reaches calls (.done (.ok ())))
    (leads : Servant.Leads Serves session calls last) :
    last.tables = session.tables.storing rows
  unchanged {session last : DatabaseSession} {calls : List (AnsweredCall Wire)} {error : Error}
    (reaches : program.Reaches calls (.done (.error error)))
    (leads : Servant.Leads Serves session calls last) : last.tables = session.tables
  /-- A failure is reported just if some call of the database has failed. -/
  failing {session last : DatabaseSession} {calls : List (AnsweredCall Wire)}
    {outcome : Except Error Unit} (reaches : program.Reaches calls (.done outcome))
    (leads : Servant.Leads Serves session calls last) :
    (∃ answered ∈ calls, Failed answered) ↔ ∃ error, outcome = .error error
  possible (session : DatabaseSession) : ∃ calls last,
    program.Reaches calls (.done (.ok ())) ∧ Servant.Leads Serves session calls last
  /-- After a success, another run changes nothing, however it goes. -/
  repeated {session middle last : DatabaseSession} {calls later : List (AnsweredCall Wire)}
    {rest : Program Wire (Except Error Unit)} (reaches : program.Reaches calls (.done (.ok ())))
    (leads : Servant.Leads Serves session calls middle) (again : program.Reaches later rest)
    (leadsOn : Servant.Leads Serves middle later last) : last.tables = middle.tables

theorem storesWhole_of_recounts
    (recounts : ∀ session, Recounts (Untorn session.tables (session.tables.storing rows))
      (AllOrNothing session.tables (session.tables.storing rows)) program session)
    (possible : ∀ session, ∃ last, program.Completes Serves session (.ok ()) last) :
    StoresWhole program rows := by
  have undivided {session last : DatabaseSession} {calls : List (AnsweredCall Wire)}
      {rest : Program Wire (Except Error Unit)} (reaches : program.Reaches calls rest)
      (leads : Servant.Leads Serves session calls last) :=
    ((recounts session).reaches reaches leads (.inl rfl)).1
  have ended {session last : DatabaseSession} {calls : List (AnsweredCall Wire)}
      {outcome : Except Error Unit} (reaches : program.Reaches calls (.done outcome))
      (leads : Servant.Leads Serves session calls last) :=
    ((recounts session).reaches reaches leads (.inl rfl)).2 outcome rfl
  refine ⟨undivided, fun reaches leads => (ended reaches leads).1,
    fun reaches leads => (ended reaches leads).1, ?_, ?_, ?_⟩
  · intro session last calls outcome reaches leads
    have ended := ended reaches leads
    cases outcome with
    | ok => exact ended.2.failing.trans (by simp)
    | error error => exact ended.2.failing.trans (by simp)
  · intro session
    rcases possible session with ⟨last, completes⟩
    rcases completes.reaches with ⟨calls, reaches, leads⟩
    exact ⟨calls, last, reaches, leads⟩
  · intro session middle last calls later rest reaches leads again leadsOn
    rcases undivided again leadsOn with same | stored
    · exact same
    · rw [stored, (ended reaches leads).1, Tables.storing, Tables.storing,
        SwapRecord.addAllByKey_addAllByKey]

/-- Every piece leaves the tables alone and adds its rows to what the transaction sees. -/
theorem recounts_insertChunks {kept : Tables → Prop} {after : Tables} (session : DatabaseSession)
    (pieces : List (List SwapRecord)) (holds : kept session.tables) (changed : kept after)
    (stored : after = { session.tables with
      swaps := SwapRecord.addAllByKey session.visible pieces.flatten }) :
    Recounts kept (AllOrNothing session.tables after) (insertChunks pieces) session := by
  induction pieces generalizing session with
  | nil =>
      have committed (now : Nat) : (session.after now .commit).tables = after :=
        (tables_commit now).trans stored.symm
      refine recounts_execute holds (fun now => committed now ▸ changed) ?_ ?_
      · intro now
        exact ⟨committed now, .goOn id talk_nil⟩
      · intro failure uncommitted
        exact ⟨rfl, .stumble trivial talk_nil⟩
  | cons chunk pieces ih =>
      refine .bind (recounts_execute holds (fun _ => holds) ?_ ?_)
      · intro now
        have recounts : Recounts kept (AllOrNothing session.tables after) (insertChunks pieces)
            (session.after now (.insertSwaps chunk)) := by
          refine ih (session.after now (.insertSwaps chunk)) holds ?_
          rw [visible_insertSwaps, stored, List.flatten_cons, SwapRecord.addAllByKey_append,
            Tables.insertSwap_eq_addByKey]
          rfl
        refine recounts.mono ?_
        rintro (failure | ⟨⟩) last calls ⟨same, talk⟩
        · exact ⟨same, .goOn id talk⟩
        · exact ⟨same, .goOn id talk⟩
      · intro failure uncommitted
        exact Program.recounts_pure ⟨rfl, .stumble trivial talk_nil⟩

theorem completes_insertChunks (session : DatabaseSession) (pieces : List (List SwapRecord)) :
    ∃ last, (insertChunks pieces).Completes Serves session (.ok ()) last := by
  induction pieces generalizing session with
  | nil => exact ⟨_, completes_execute 0 .commit⟩
  | cons chunk pieces ih =>
      rcases ih (session.after 0 (.insertSwaps chunk)) with ⟨last, completes⟩
      exact ⟨last, Program.completes_bind.mpr
        ⟨_, _, completes_execute 0 (.insertSwaps chunk), completes⟩⟩

theorem completes_transaction {body : Program Wire (Except DatabaseFailure Unit)}
    (completes : body.Completes Serves ⟨session.tables, []⟩ (.ok ()) last) :
    (transaction body).Completes Serves session (.ok ()) ⟨last.tables, []⟩ := by
  refine Program.completes_bind.mpr ⟨_, _, completes_acquire, ?_⟩
  refine Program.completes_bind.mpr ⟨_, _, completes_execute 0 .begin, ?_⟩
  refine Program.completes_bind.mpr ⟨_, _, completes, ?_⟩
  exact Program.completes_bind.mpr ⟨_, _, completes_giveBack, rfl, rfl⟩

/-- However the rows are cut into pieces, a transaction stores them as a whole. -/
theorem storesWhole_insertChunks (pieces : List (List SwapRecord)) :
    StoresWhole (transaction (insertChunks pieces)) pieces.flatten := by
  refine storesWhole_of_recounts ?_ ?_
  · intro session
    refine recounts_transaction (.inl rfl) (.inr rfl) ?_
    exact recounts_insertChunks ⟨session.tables, []⟩ pieces (.inl rfl) (.inr rfl) rfl
  · intro session
    rcases completes_insertChunks ⟨session.tables, []⟩ pieces with ⟨last, completes⟩
    exact ⟨_, completes_transaction completes⟩

theorem recounts_insertSwaps (session : DatabaseSession) (swaps : List SwapRecord) :
    Recounts (Untorn session.tables (session.tables.storing (swaps.map (·.toRow))))
      (AllOrNothing session.tables (session.tables.storing (swaps.map (·.toRow))))
      (insertSwaps swaps) session := by
  cases swaps with
  | nil => exact Program.recounts_pure ⟨rfl, talk_nil⟩
  | cons swap swaps =>
      refine recounts_transaction (.inl rfl) (.inr rfl) ?_
      refine recounts_insertChunks ⟨session.tables, []⟩ _ (.inl rfl) (.inr rfl) ?_
      rw [flatten_chunks (by decide)]
      rfl

theorem completes_insertSwaps (session : DatabaseSession) (swaps : List SwapRecord) :
    ∃ last, (insertSwaps swaps).Completes Serves session (.ok ()) last := by
  cases swaps with
  | nil => exact ⟨session, rfl, rfl⟩
  | cons swap swaps =>
      rcases completes_insertChunks ⟨session.tables, []⟩ _ with ⟨last, completes⟩
      exact ⟨_, completes_transaction completes⟩

theorem storesWhole_serve (address : String) (connections : Nat) (swaps : List SwapRecord) :
    StoresWhole (serve address connections (.insertSwaps swaps)) (swaps.map (·.toRow)) := by
  refine storesWhole_of_recounts ?_ ?_
  · intro session
    refine .bind ((recounts_insertSwaps session swaps).mono ?_)
    rintro (failure | ⟨⟩) last calls ⟨same, talk⟩
    · exact ⟨same, by simpa using talk⟩
    · exact ⟨same, by simpa using talk⟩
  · intro session
    rcases completes_insertSwaps session swaps with ⟨last, completes⟩
    exact ⟨last, Program.completes_bind.mpr ⟨_, _, completes, rfl, rfl⟩⟩

/-- Storing swaps is all-or-nothing and can be repeated: wherever a run stops, and whatever fails
before, the tables are as they were or as if the swaps had been added one by one, each unless its
key is there; they are so just if the run succeeds. The same holds of every other way of cutting
the rows into pieces. -/
theorem insertSwaps_storesWhole (address : String) (connections : Nat) (swaps : List SwapRecord) :
    StoresWhole (serve address connections (.insertSwaps swaps)) (swaps.map (·.toRow)) ∧
      ∀ pieces : List (List SwapRecord),
        StoresWhole (transaction (insertChunks pieces)) pieces.flatten :=
  ⟨storesWhole_serve address connections swaps, storesWhole_insertChunks⟩

/-- Whether a row tells all that a swap does; amounts may be written in different ways. -/
structure Tells (row swap : SwapRecord) : Prop where
  key_eq : row.key = swap.key
  wallet_eq : row.wallet = swap.wallet
  source_eq : row.source = swap.source
  token_eq : row.token = swap.token
  processed_eq : row.processed = swap.processed

theorem toRow_of_storable {swap : SwapRecord}
    (storable : swap.blockNumber.toNat ≤ Statement.greatestInteger) : swap.toRow = swap := by
  have least : min swap.blockNumber (.ofNat Statement.greatestInteger) = swap.blockNumber :=
    if_pos (UInt64.le_iff_toNat_le.mpr storable)
  rw [SwapRecord.toRow, least]

theorem map_toRow_of_storable {swaps : List SwapRecord}
    (storable : ∀ swap ∈ swaps, swap.blockNumber.toNat ≤ Statement.greatestInteger) :
    swaps.map (·.toRow) = swaps :=
  List.map_congr_left (fun swap member => toRow_of_storable (storable swap member)) |>.trans
    (List.map_id swaps)

/-- Of different swaps whose keys are new, one is told of by the rows that are there afterwards just
if no earlier one has its key. Where one has, the key is known by the time the row would be added.
-/
theorem exists_tells_iff {rows earlier later : List SwapRecord} {swap : SwapRecord}
    (new : swap.key ∉ rows.map SwapRecord.key)
    (different : (earlier ++ swap :: later).Pairwise fun first second => ¬ Tells first second) :
    (∃ row ∈ SwapRecord.addAllByKey rows (earlier ++ swap :: later), Tells row swap) ↔
      swap.key ∉ earlier.map SwapRecord.key := by
  constructor
  · rintro ⟨row, member, tells⟩ known
    rcases SwapRecord.mem_addAllByKey.mp member with present | ⟨before, after, split, _, first⟩
    · exact new (List.mem_map.mpr ⟨row, present, tells.key_eq⟩)
    · rw [tells.key_eq] at first
      rcases List.append_eq_append_iff.mp split with ⟨between, rfl, _⟩ | ⟨between, rfl, rest⟩
      · rw [List.map_append, List.mem_append, not_or] at first
        exact first.1 known
      · rcases List.cons_eq_append_iff.mp rest with ⟨rfl, _⟩ | ⟨between, rfl, _⟩
        · rw [List.append_nil] at known
          exact first known
        · refine (List.pairwise_append.mp different).2.2 row ?_ swap List.mem_cons_self tells
          exact List.mem_append_right _ List.mem_cons_self
  · intro unknown
    refine ⟨swap, SwapRecord.mem_addAllByKey.mpr (.inr ?_), ⟨rfl, rfl, rfl, rfl, rfl⟩⟩
    exact ⟨earlier, later, rfl, new, unknown⟩

/-- Among different swaps of new transactions, those are stored that no earlier one shares its key
with, and there is one row for every key. -/
theorem insertSwaps_storesFirst {address : String} {connections : Nat} {swaps : List SwapRecord}
    {session last : DatabaseSession} {calls : List (AnsweredCall Wire)}
    (fresh : ∀ row ∈ session.tables.swaps, ∀ swap ∈ swaps, row.id ≠ swap.id)
    (different : swaps.Pairwise fun earlier later => ¬ Tells earlier later)
    (storable : ∀ swap ∈ swaps, swap.blockNumber.toNat ≤ Statement.greatestInteger)
    (reaches : (serve address connections (.insertSwaps swaps)).Reaches calls (.done (.ok ())))
    (leads : Servant.Leads Serves session calls last) :
    (∀ earlier swap later, swaps = earlier ++ swap :: later →
      ((∃ row ∈ last.tables.swaps, Tells row swap) ↔ swap.key ∉ earlier.map SwapRecord.key)) ∧
    ∀ swap ∈ swaps, (last.tables.swaps.map SwapRecord.key).count swap.key = 1 := by
  have stored := (storesWhole_serve address connections swaps).stored reaches leads
  rw [map_toRow_of_storable storable] at stored
  have unknown {swap : SwapRecord} (member : swap ∈ swaps) :
      swap.key ∉ session.tables.swaps.map SwapRecord.key := by
    intro known
    rcases List.mem_map.mp known with ⟨row, present, same⟩
    exact fresh row present swap member (congrArg SwapRecord.Key.id same)
  rw [stored]
  refine ⟨?_, ?_⟩
  · rintro earlier swap later rfl
    exact exists_tells_iff (unknown (List.mem_append_right _ List.mem_cons_self)) different
  · intro swap member
    rw [Tables.storing, SwapRecord.count_key_addAllByKey, if_pos (List.mem_map_of_mem member),
      List.count_eq_zero.mpr (unknown member)]
    rfl

/-- A wallet's part in a transaction in which several wallets buy the same from one pool. -/
def share (wallet : Address) : SwapRecord where
  id := "shared"
  wallet
  source := "Raydium"
  blockNumber := 100
  timestamp := 1700000000
  action := .buy
  pair := "pool"
  token := "coin"
  amountIn := ⟨25, 0⟩
  amountOut := ⟨15, 1⟩
  processed := false

theorem not_tells_share : ¬ Tells (share "first") (share "second") :=
  fun tells => absurd tells.wallet_eq (by decide)

theorem insertSwaps_storesFirst_share : ∃ calls last,
    (serve "" 1 (.insertSwaps [share "first", share "second"])).Reaches calls (.done (.ok ())) ∧
      Servant.Leads Serves ⟨.empty, []⟩ calls last ∧
      (∃ row ∈ last.tables.swaps, Tells row (share "first")) ∧
      (last.tables.swaps.map SwapRecord.key).count (share "second").key = 1 := by
  rcases (storesWhole_serve "" 1 [share "first", share "second"]).possible ⟨.empty, []⟩ with
    ⟨calls, last, reaches, leads⟩
  have stored := insertSwaps_storesFirst (fun _ present => absurd present List.not_mem_nil)
    (List.pairwise_pair.mpr not_tells_share) (by decide) reaches leads
  exact ⟨calls, last, reaches, leads, (stored.1 [] _ _ rfl).mpr List.not_mem_nil,
    stored.2 _ (by simp)⟩

/-- Two wallets buy the same from one pool in one transaction; only what the first bought is stored,
although the insertion succeeds. -/
theorem insertSwaps_overlooks_share :
    [share "first", share "second"].Pairwise (fun earlier later => ¬ Tells earlier later) ∧
      (∀ swap ∈ [share "first", share "second"],
        swap.blockNumber.toNat ≤ Statement.greatestInteger) ∧
      ∃ calls last,
        (serve "" 1 (.insertSwaps [share "first", share "second"])).Reaches calls
          (.done (.ok ())) ∧
        Servant.Leads Serves ⟨.empty, []⟩ calls last ∧
        ¬ ∃ row ∈ last.tables.swaps, Tells row (share "second") := by
  refine ⟨List.pairwise_pair.mpr not_tells_share, by decide, ?_⟩
  have whole := storesWhole_serve "" 1 [share "first", share "second"]
  rcases whole.possible ⟨.empty, []⟩ with ⟨calls, last, reaches, leads⟩
  refine ⟨calls, last, reaches, leads, ?_⟩
  have only : last.tables.swaps = [share "first"] := by
    rw [whole.stored reaches leads, map_toRow_of_storable (by decide)]
    exact if_pos (List.mem_singleton.mpr rfl)
  rw [only]
  rintro ⟨row, member, tells⟩
  exact not_tells_share (List.mem_singleton.mp member ▸ tells)

end DatabaseSession

end SwapLedger
