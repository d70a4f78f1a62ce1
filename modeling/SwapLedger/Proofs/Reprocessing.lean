import SwapLedger.Indexer
import SwapLedger.Proofs.ProvidedServices

/-!
# Finding swaps anew

The swaps of a transaction that are stored are removed as soon as the node has told the transaction,
and stored anew once it has been read and looked through. Nothing holds the two together: where what
comes in between fails, the rows of the transaction are gone.
-/

namespace SwapLedger

namespace ConfirmedTransaction

/-- The swaps that are found in a transaction, given how it reads. -/
abbrev swaps (confirmed : ConfirmedTransaction) (transaction : Transaction) : List SwapRecord :=
  transaction.swaps .standard (confirmed.time.getD 0) confirmed.slot

end ConfirmedTransaction

namespace Indexer

/-- Whether the swaps of a transaction were seen to be removed. -/
def Removes (signature : String) (calls : List (AnsweredCall Services)) : Prop :=
  ∃ count, (⟨.store (.deleteSwaps signature), some (.ok count)⟩ : AnsweredCall Services) ∈ calls

def Tells (signature : String) (confirmed : ConfirmedTransaction)
    (calls : List (AnsweredCall Services)) : Prop :=
  (⟨.node 0 (.transaction signature), some (.ok confirmed)⟩ : AnsweredCall Services) ∈ calls

/-- How the storing of a transaction's swaps ends, and which rows are there then. -/
inductive StoresAnew (confirmed : ConfirmedTransaction) (rows : List SwapRecord)
    (calls : List (AnsweredCall Services)) :
    Except Failure (List SwapRecord) → List SwapRecord → Prop where
  | ineffective (failed : confirmed.transaction.succeeded = false) :
      StoresAnew confirmed rows calls (.ok []) rows
  | unreadable {failure : Failure} (succeeded : confirmed.transaction.succeeded = true)
      (garbled : confirmed.transaction.decode = .error failure) :
      StoresAnew confirmed rows calls (.error failure) rows
  | unstored {failure : Failure} {transaction : Transaction}
      (succeeded : confirmed.transaction.succeeded = true)
      (read : confirmed.transaction.decode = .ok transaction)
      (refused : ⟨.store (.insertSwaps (confirmed.swaps transaction)), some (.error failure)⟩ ∈
        calls) :
      StoresAnew confirmed rows calls (.error failure) rows
  /-- The lookups could not be written down. -/
  | unnoted {failure : Failure} {transaction : Transaction} {addresses : List Address}
      (succeeded : confirmed.transaction.succeeded = true)
      (read : confirmed.transaction.decode = .ok transaction)
      (stored : Services.Stores (confirmed.swaps transaction) calls)
      (refused : ⟨.store (.enqueueLookups addresses), some (.error failure)⟩ ∈ calls) :
      StoresAnew confirmed rows calls (.error failure)
        (SwapRecord.addAllByKey rows ((confirmed.swaps transaction).map (·.toRow)))
  | stored {transaction : Transaction} (succeeded : confirmed.transaction.succeeded = true)
      (read : confirmed.transaction.decode = .ok transaction)
      (stored : Services.Stores (confirmed.swaps transaction) calls) :
      StoresAnew confirmed rows calls (.ok (confirmed.swaps transaction))
        (SwapRecord.addAllByKey rows ((confirmed.swaps transaction).map (·.toRow)))

/-- How the search for a transaction's swaps ends, and which rows are there then. -/
inductive Reprocesses (signature : String) (rows : List SwapRecord)
    (calls : List (AnsweredCall Services)) :
    Except Failure (List SwapRecord) → List SwapRecord → Prop where
  | untouched {failure : Failure} (unremoved : ¬ Removes signature calls) :
      Reprocesses signature rows calls (.error failure) rows
  | anew {confirmed : ConfirmedTransaction} {outcome : Except Failure (List SwapRecord)}
      {after : List SwapRecord} (told : Tells signature confirmed calls)
      (removed : Removes signature calls)
      (stores : StoresAnew confirmed (rows.filter (·.id != signature)) calls outcome after) :
      Reprocesses signature rows calls outcome after

variable {configuration : Configuration} {signature : String} {session last : DatabaseSession}
  {rows after : List SwapRecord} {calls later : List (AnsweredCall Services)}
  {outcome : Except Failure (List SwapRecord)} {confirmed : ConfirmedTransaction}

theorem StoresAnew.mono (stores : StoresAnew confirmed rows later outcome after)
    (more : later ⊆ calls) : StoresAnew confirmed rows calls outcome after := by
  cases stores with
  | ineffective failed => exact .ineffective failed
  | unreadable succeeded garbled => exact .unreadable succeeded garbled
  | unstored succeeded read refused => exact .unstored succeeded read (more refused)
  | unnoted succeeded read stored refused =>
      exact .unnoted succeeded read (more stored) (more refused)
  | stored succeeded read stored => exact .stored succeeded read (more stored)

/-- The writing of lookups leaves the stored swaps alone. -/
theorem recounts_flushLookups (session : DatabaseSession) :
    configuration.Recounts (fun outcome last calls =>
      last.tables.swaps = session.tables.swaps ∧ ∀ failure, outcome = .error failure →
        ∃ addresses, ⟨.store (.enqueueLookups addresses), some (.error failure)⟩ ∈ calls)
      flushLookups session := by
  refine .bind (Configuration.recounts_call (.shared .takeLookups) fun pending taken provided => ?_)
  have same_taken := provided.spares rfl
  split
  · exact Program.recounts_pure ⟨same_taken, nofun⟩
  · refine Configuration.recounts_call (.store (.enqueueLookups _)) fun outcome last provided => ?_
    refine ⟨(provided.spares rfl).trans same_taken, ?_⟩
    rintro failure rfl
    exact ⟨pending, by simp⟩

theorem recounts_storeAnew (deleted : Nat) (session : DatabaseSession) :
    configuration.Recounts (fun outcome last calls =>
      StoresAnew confirmed session.tables.swaps calls outcome last.tables.swaps)
      (storeAnew signature deleted confirmed) session := by
  rw [storeAnew]
  cases succeeded : confirmed.transaction.succeeded with
  | false =>
      refine Configuration.recounts_sparing_bind (Program.silent_request rfl) ?_
      intro _ told calls same _
      exact Program.recounts_pure (same ▸ .ineffective succeeded)
  | true =>
      simp only [Bool.true_eq_false, if_false]
      cases read : confirmed.transaction.decode with
      | error failure => exact Program.recounts_pure (.unreadable succeeded read)
      | ok transaction =>
          refine Configuration.recounts_sparing_bind Program.silent_reportAll ?_
          intro _ told _ same_told _
          refine Configuration.recounts_sparing_bind
            ((Worker.addLookups_settling _).widen fun _ => ServiceCall.sparing_of_settling) ?_
          intro _ asked _ same_asked _
          refine .onSuccess (Configuration.recounts_call (.store (.insertSwaps _)) ?_)
          rintro (failure | ⟨⟩) middle provided
          · have same := provided.unstored.trans (same_asked.trans same_told)
            dsimp only
            rw [same]
            exact .unstored succeeded read (by simp)
          · have stored := provided.stored
            rw [same_asked, same_told] at stored
            refine .onSuccess ((recounts_flushLookups middle).mono ?_)
            rintro (failure | ⟨⟩) flushed notes ⟨same, refused⟩
            · rcases refused failure rfl with ⟨addresses, refused⟩
              dsimp only
              rw [same, stored]
              refine @StoresAnew.unnoted _ _ _ failure transaction addresses succeeded read ?_ ?_
              · simp [Services.Stores]
              · simp [refused]
            · refine Configuration.recounts_sparing_bind (Program.silent_request rfl) ?_
              intro _ last _ same_last _
              refine Program.recounts_pure ?_
              rw [same_last, same, stored]
              exact .stored succeeded read (by simp [Services.Stores])

/-- As long as nothing has been removed, a failure leaves all rows as they are. From the removal on
the rows are gone, whatever fails. -/
theorem recounts_reprocess (session : DatabaseSession) :
    configuration.Recounts (fun outcome last calls =>
      Reprocesses signature session.tables.swaps calls outcome last.tables.swaps)
      (reprocess configuration signature) session := by
  rw [reprocess]
  split
  · exact Program.recounts_pure (.untouched nofun)
  split
  · exact Program.recounts_pure (.untouched nofun)
  refine .onSuccess (Configuration.recounts_call (.node 0 (.transaction signature)) ?_)
  rintro (failure | confirmed) told provided
  · dsimp only
    rw [provided.spares rfl]
    exact .untouched (by simp [Removes])
  · have same := provided.spares rfl
    refine .onSuccess (Configuration.recounts_call (.store (.deleteSwaps signature)) ?_)
    rintro (failure | count) removed provided
    · dsimp only
      rw [provided.unremoved, same]
      exact .untouched (by simp [Removes])
    · refine (recounts_storeAnew _ removed).mono ?_
      intro outcome last calls stores
      rw [provided.removed, same] at stores
      refine .anew ?_ ?_ (stores.mono ?_)
      · simp [Tells]
      · exact ⟨count, by simp⟩
      · simp

/-- A search that fails leaves the stored swaps alone, unless it fails after their removal. Then the
rows of the transaction are gone, and those that have been found in it are there only if it is the
lookups that could not be written down. -/
theorem unchanged_unless_removed {failure : Failure}
    (reaches : (reprocess configuration signature).Reaches calls (.done (.error failure)))
    (leads : Servant.Leads configuration.Provides session calls last) :
    (¬ Removes signature calls ∧ last.tables.swaps = session.tables.swaps) ∨
      Removes signature calls ∧ ∃ confirmed, Tells signature confirmed calls ∧
        StoresAnew confirmed (session.tables.swaps.filter (·.id != signature)) calls
          (.error failure) last.tables.swaps := by
  have ended := ((recounts_reprocess session).reaches reaches leads trivial).2 _ rfl
  generalize last.tables.swaps = after at ended ⊢
  cases ended with
  | untouched unremoved => exact .inl ⟨unremoved, rfl⟩
  | anew told removed stores => exact .inr ⟨removed, _, told, stores⟩

def ones : String := String.ofList (List.replicate 64 '1')

/-- A transaction that the node tells by its bytes, though it was asked to spell it out. -/
def binaryAnswer : String :=
  "\x7b\"result\":\x7b\"slot\":7,\"transaction\":\"AA\",\"blockTime\":null,\"meta\":\x7b" ++
    "\"err\":null,\"status\":\x7b\"Ok\":null\x7d,\"fee\":0,\"preBalances\":[]," ++
    "\"postBalances\":[]\x7d\x7d\x7d"

def binaryTransaction : ConfirmedTransaction :=
  ⟨7, none, .binary, some ⟨false, [], [], [], [], [], [], []⟩⟩

/-- The node tells the transaction, its rows are removed, and then it cannot be read. -/
theorem exists_hasRun_binary (session : DatabaseSession) : ∃ calls last,
    (reprocess .oneNode ones).HasRun Configuration.oneNode.Provides session calls
        (.error (.decoding "transaction is not JSON encoded")) last ∧
      Removes ones calls ∧ last.tables.swaps = session.tables.swaps.filter (·.id != ones) := by
  have signed : Signature.check ones = .ok () := by decide +kernel
  have found : NodeRpc.endpoint "http://node" = .ok "http://node/" := by decide +kernel
  have told : (NodeAnswer.parse binaryAnswer).read
      "struct EncodedConfirmedTransactionWithStatusMeta" ConfirmedTransaction.ofJson?
      (fun refusal => .rpcClient refusal.message) = .ok binaryTransaction := by
    decide +kernel
  have tells : Configuration.oneNode.Provides session
      ⟨.node 0 (.transaction ones), some (.ok binaryTransaction)⟩ session :=
    Configuration.provides_transaction found told
  rcases Configuration.oneNode.exists_provides_deleteSwaps ones session with
    ⟨count, last, removed⟩
  have garbled : (storeAnew ones count binaryTransaction).HasRun Configuration.oneNode.Provides last
      [] (.error (.decoding "transaction is not JSON encoded")) last := Program.hasRun_pure
  have run : (reprocess .oneNode ones).HasRun Configuration.oneNode.Provides session
      ([⟨.node 0 (.transaction ones), some (.ok binaryTransaction)⟩] ++
        ([⟨.store (.deleteSwaps ones), some (.ok count)⟩] ++ []))
      (.error (.decoding "transaction is not JSON encoded")) last := by
    rw [reprocess, signed]
    exact (Program.hasRun_call tells).bind ((Program.hasRun_call removed).bind garbled)
  exact ⟨_, last, run, ⟨count, by simp⟩, removed.removed⟩

def storedOnce : DatabaseSession :=
  ⟨{ Tables.empty with swaps := [{ DatabaseSession.share "wallet" with id := ones }] }, []⟩

theorem unchanged_unless_removed_binary : ∃ calls last failure,
    (reprocess .oneNode ones).HasRun Configuration.oneNode.Provides storedOnce calls
        (.error failure) last ∧
      Removes ones calls ∧ ∃ confirmed, Tells ones confirmed calls ∧
        StoresAnew confirmed (storedOnce.tables.swaps.filter (·.id != ones)) calls
          (.error failure) last.tables.swaps := by
  rcases exists_hasRun_binary storedOnce with ⟨calls, last, run, removed, _⟩
  refine ⟨calls, last, _, run, ?_⟩
  exact (unchanged_unless_removed run.reaches run.leads).resolve_left fun kept => kept.1 removed

/-- A search fails, and the row of the transaction that was stored before is gone. -/
theorem rows_lost_binary : ∃ calls last failure,
    (reprocess .oneNode ones).HasRun Configuration.oneNode.Provides storedOnce calls
        (.error failure) last ∧
      (storedOnce.tables.swaps.filter (·.id == ones)).length = 1 ∧
      last.tables.swaps.filter (·.id == ones) = [] := by
  rcases exists_hasRun_binary storedOnce with ⟨calls, last, run, _, rows⟩
  refine ⟨calls, last, _, run, ?_, ?_⟩
  · simp [storedOnce]
  · rw [rows, List.filter_filter]
    simp

end Indexer

end SwapLedger
