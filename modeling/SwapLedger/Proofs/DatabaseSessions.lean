import SwapLedger.Proofs.Servants
import SwapLedger.Proofs.SwapKeys
import SwapLedger.SwapStore

/-!
# Sessions of a database

A program that talks to the database sees the tables through the connection that it holds. Any call
may fail, at any time and for any reason. A statement that fails has no effect on the tables, and
rows that were inserted within a transaction are dropped with it unless it is committed. From this
alone follows what queries and transactions do as a whole.
-/

namespace SwapLedger

/-- The tables, and the rows that the open transaction has inserted. -/
structure DatabaseSession where
  tables : Tables
  uncommitted : List SwapRecord

namespace DatabaseSession

variable (session : DatabaseSession)

/-- The swaps as the open transaction sees them. -/
def visible : List SwapRecord := SwapRecord.addAllByKey session.tables.swaps session.uncommitted

/-- What a statement answers. -/
def answer (now : Nat) (statement : Statement) : statement.Answer :=
  (session.tables.apply now session.uncommitted statement).1

/-- The session after a statement. -/
def after (now : Nat) (statement : Statement) : DatabaseSession :=
  ⟨(session.tables.apply now session.uncommitted statement).2.1,
    (session.tables.apply now session.uncommitted statement).2.2⟩

/-- How a session answers. What becomes of a transaction in which a statement fails is left open,
but its rows do not get into the tables. -/
inductive Serves : Servant Wire DatabaseSession where
  | carriedOut {session : DatabaseSession} {statement : Statement} (now : Nat) :
      Serves session ⟨.database (.execute statement), some (.ok (session.answer now statement))⟩
        (session.after now statement)
  | failed {session : DatabaseSession} {statement : Statement} (failure : DatabaseFailure)
      (uncommitted : List SwapRecord) :
      Serves session ⟨.database (.execute statement), some (.error failure)⟩
        ⟨session.tables, uncommitted⟩
  | givenBack {session : DatabaseSession} (broken : Bool) :
      Serves session ⟨.database (.giveBack broken), some ()⟩ ⟨session.tables, []⟩
  | elsewhere {session : DatabaseSession} {call : WireCall} {answer : Option call.Answer}
      (unexecuted : ∀ statement, call ≠ .database (.execute statement))
      (kept : ∀ broken, call ≠ .database (.giveBack broken)) : Serves session ⟨call, answer⟩ session

/-- Whether a call of the database has failed. -/
def Failed : AnsweredCall Wire → Prop
  | ⟨.database .acquire, some (.error _)⟩ => True
  | ⟨.database (.execute _), some (.error _)⟩ => True
  | _ => False

/-- Whether only the database is called, and whether some call fails. -/
structure Talk (failing : Prop) (calls : List (AnsweredCall Wire)) : Prop where
  database : ∀ answered ∈ calls, ∃ call, answered.call = .database call
  failing : (∃ answered ∈ calls, Failed answered) ↔ failing

variable {session}

/-- Inserted rows are at once seen within the transaction, unless they conflict with others that are
seen there. -/
theorem visible_insertSwaps (now : Nat) (rows : List SwapRecord) :
    (session.after now (.insertSwaps rows)).visible =
      rows.foldl Tables.insertSwap session.visible := by
  rw [Tables.insertSwap_eq_addByKey]
  exact SwapRecord.addAllByKey_append

/-- A commit makes the tables what the transaction has seen. -/
theorem tables_commit (now : Nat) :
    (session.after now .commit).tables = { session.tables with swaps := session.visible } := by
  simp only [after, Tables.apply, visible, SwapRecord.addAllByKey, Tables.insertSwap_eq_addByKey]

theorem Talk.append {first second : Prop} {calls later : List (AnsweredCall Wire)}
    (talk : Talk first calls) (rest : Talk second later) :
    Talk (first ∨ second) (calls ++ later) := by
  refine ⟨?_, ?_⟩
  · intro answered member
    rcases List.mem_append.mp member with member | member
    · exact talk.database answered member
    · exact rest.database answered member
  · simp only [List.mem_append, or_and_right, exists_or, talk.failing, rest.failing]

section Calls

variable {failing : Prop} {later : List (AnsweredCall Wire)}

theorem Talk.cons (call : DatabaseCall) (answer : Option call.Answer) (rest : Talk failing later) :
    Talk (Failed ⟨.database call, answer⟩ ∨ failing) (⟨.database call, answer⟩ :: later) := by
  refine ⟨?_, ?_⟩
  · intro answered member
    rcases List.mem_cons.mp member with rfl | member
    · exact ⟨call, rfl⟩
    · exact rest.database answered member
  · simp only [List.mem_cons, or_and_right, exists_or, exists_eq_left, rest.failing]

theorem Talk.goOn {call : DatabaseCall} {answer : Option call.Answer}
    (fine : ¬ Failed ⟨.database call, answer⟩) (rest : Talk failing later) :
    Talk failing (⟨.database call, answer⟩ :: later) := by
  simpa only [fine, false_or] using rest.cons call answer

theorem Talk.stumble {call : DatabaseCall} {answer : Option call.Answer}
    (failed : Failed ⟨.database call, answer⟩) (rest : Talk failing later) :
    Talk True (⟨.database call, answer⟩ :: later) := by
  simpa only [failed, true_or] using rest.cons call answer

end Calls

theorem talk_nil : Talk False [] :=
  ⟨fun _ member => absurd member List.not_mem_nil, by simp⟩

section Programs

variable {Result Error : Type} {kept : Tables → Prop} {statement : Statement}

/-- Whether something holds of the tables all the time while a program runs, and something else
holds in the end, of the session and of the calls that were made. -/
abbrev Recounts (kept : Tables → Prop)
    (ends : Result → DatabaseSession → List (AnsweredCall Wire) → Prop)
    (program : Program Wire Result) (session : DatabaseSession) : Prop :=
  program.Recounts Serves (fun session => kept session.tables) ends session

theorem recounts_acquire
    {ends : Except DatabaseFailure Unit → DatabaseSession → List (AnsweredCall Wire) → Prop}
    (holds : kept session.tables)
    (answered : ∀ outcome, ends outcome session [⟨.database .acquire, some outcome⟩]) :
    Recounts kept ends (Wire.database .acquire) session := by
  intro outcome next served
  cases served with
  | elsewhere => exact ⟨holds, answered outcome⟩

theorem recounts_giveBack {broken : Bool}
    {ends : Unit → DatabaseSession → List (AnsweredCall Wire) → Prop} (holds : kept session.tables)
    (answered : ends () ⟨session.tables, []⟩ [⟨.database (.giveBack broken), some ()⟩]) :
    Recounts kept ends (Wire.database (.giveBack broken)) session := by
  intro outcome next served
  cases served with
  | givenBack => exact ⟨holds, answered⟩
  | elsewhere _ outside => exact absurd rfl (outside broken)

theorem recounts_execute
    {ends : Except DatabaseFailure statement.Answer → DatabaseSession → List (AnsweredCall Wire) →
      Prop}
    (holds : kept session.tables) (changed : ∀ now, kept (session.after now statement).tables)
    (carriedOut : ∀ now,
      ends (.ok (session.answer now statement)) (session.after now statement)
        [⟨.database (.execute statement), some (.ok (session.answer now statement))⟩])
    (failed : ∀ failure uncommitted, ends (.error failure) ⟨session.tables, uncommitted⟩
      [⟨.database (.execute statement), some (.error failure)⟩]) :
    Recounts kept ends (SwapStore.execute statement) session := by
  intro outcome next served
  cases served with
  | carriedOut now => exact ⟨changed now, carriedOut now⟩
  | failed failure uncommitted => exact ⟨holds, failed failure uncommitted⟩
  | elsewhere outside => exact absurd rfl (outside statement)

/-- A query fails just if one of its calls does; otherwise its statement has been carried out. -/
theorem recounts_query
    {ends : Except DatabaseFailure statement.Answer → DatabaseSession → List (AnsweredCall Wire) →
      Prop}
    (holds : kept session.tables) (changed : ∀ now, kept (session.after now statement).tables)
    (carriedOut : ∀ now calls, Talk False calls →
      ends (.ok (session.answer now statement)) ⟨(session.after now statement).tables, []⟩ calls)
    (failed : ∀ failure uncommitted calls, Talk True calls →
      ends (.error failure) ⟨session.tables, uncommitted⟩ calls) :
    Recounts kept ends (SwapStore.query statement) session := by
  refine .bind (recounts_acquire holds ?_)
  rintro (failure | ⟨⟩)
  · exact Program.recounts_pure (failed failure _ _ (talk_nil.stumble trivial))
  · refine .bind (recounts_execute holds changed ?_ ?_)
    · intro now
      refine .bind (recounts_giveBack (changed now) (Program.recounts_pure ?_))
      exact carriedOut now _ (.goOn id (.goOn id (.goOn id talk_nil)))
    · intro failure uncommitted
      refine .bind (recounts_giveBack holds (Program.recounts_pure ?_))
      exact failed failure _ _ (.goOn id (.stumble trivial (.goOn id talk_nil)))

/-- Tables that are as before or as after a change. -/
def Untorn (before after tables : Tables) : Prop := tables = before ∨ tables = after

/-- How an attempt to change the tables ends: either they have changed and no call has failed, or
some call has failed and they have not. -/
def AllOrNothing (before after : Tables) (outcome : Except Error Unit) (last : DatabaseSession)
    (calls : List (AnsweredCall Wire)) : Prop :=
  match outcome with
  | .ok () => last.tables = after ∧ Talk False calls
  | .error _ => last.tables = before ∧ Talk True calls

/-- Ending a failed transaction changes nothing. -/
theorem recounts_abort {failure : DatabaseFailure}
    {ends : Unit → DatabaseSession → List (AnsweredCall Wire) → Prop} (holds : kept session.tables)
    (ended : ∀ calls stumbles, Talk stumbles calls → ends () ⟨session.tables, []⟩ calls) :
    Recounts kept ends (SwapStore.abort failure) session := by
  rw [SwapStore.abort]
  split_ifs with broken
  · exact recounts_giveBack holds (ended _ _ (.goOn id talk_nil))
  · refine .bind (recounts_execute holds (fun _ => holds) ?_ ?_)
    · intro now
      exact recounts_giveBack holds (ended _ _ (.goOn id (.goOn id talk_nil)))
    · intro failure uncommitted
      exact recounts_giveBack holds (ended _ _ (.stumble trivial (.goOn id talk_nil)))

/-- A transaction changes the tables as its body does, all at once or not at all. -/
theorem recounts_transaction {body : Program Wire (Except DatabaseFailure Unit)} {after : Tables}
    (holds : kept session.tables) (changed : kept after)
    (recounts : Recounts kept (AllOrNothing session.tables after) body ⟨session.tables, []⟩) :
    Recounts kept (AllOrNothing session.tables after) (SwapStore.transaction body) session := by
  refine .bind (recounts_acquire holds ?_)
  rintro (failure | ⟨⟩)
  · exact Program.recounts_pure ⟨rfl, .stumble trivial talk_nil⟩
  · refine .bind (recounts_execute holds (fun _ => holds) ?_ ?_)
    · intro now
      refine .bind (recounts.mono ?_)
      rintro (failure | ⟨⟩) last calls ⟨same, talk⟩
      · refine .bind (recounts_abort (same ▸ holds) fun later stumbles rest => ?_)
        refine Program.recounts_pure ⟨same, .goOn id (.goOn id ?_)⟩
        simpa using talk.append (rest.append talk_nil)
      · refine .bind (recounts_giveBack (same ▸ changed) (Program.recounts_pure ⟨same, ?_⟩))
        refine .goOn id (.goOn id ?_)
        simpa using talk.append (.goOn id talk_nil)
    · intro failure uncommitted
      refine .bind (recounts_giveBack holds (Program.recounts_pure ⟨rfl, ?_⟩))
      exact .goOn id (.stumble trivial (.goOn id talk_nil))

theorem completes_acquire :
    (Wire.database .acquire).Completes Serves session (.ok ()) session :=
  Program.completes_request.mpr (.elsewhere nofun nofun)

theorem completes_giveBack {broken : Bool} :
    (Wire.database (.giveBack broken)).Completes Serves session () ⟨session.tables, []⟩ :=
  Program.completes_request.mpr (.givenBack broken)

theorem completes_execute (now : Nat) (statement : Statement) :
    (SwapStore.execute statement).Completes Serves session (.ok (session.answer now statement))
      (session.after now statement) :=
  Program.completes_request.mpr (.carriedOut now)

theorem completes_query (now : Nat) (statement : Statement) :
    (SwapStore.query statement).Completes Serves session (.ok (session.answer now statement))
      ⟨(session.after now statement).tables, []⟩ := by
  refine Program.completes_bind.mpr ⟨_, _, completes_acquire, ?_⟩
  refine Program.completes_bind.mpr ⟨_, _, completes_execute now statement, ?_⟩
  exact Program.completes_bind.mpr ⟨_, _, completes_giveBack, rfl, rfl⟩

end Programs

end DatabaseSession

end SwapLedger
