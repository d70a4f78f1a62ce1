import SwapLedger.Proofs.LookupBatches
import SwapLedger.Proofs.NodeBlocks
import SwapLedger.Proofs.Redelivery
import SwapLedger.Proofs.Repairs
import SwapLedger.Proofs.Reprocessing

/-!
# Swaps that are replaced

When swaps are found anew, nobody else asks for lookups or writes them down. If the search succeeds,
the rows of its transaction are just the swaps that were found, all other rows are as before, and
every address of these swaps is among those whose metadata is wanted, as are all that were there.
-/

namespace SwapLedger

/-! ### Addresses whose metadata is wanted -/

namespace DatabaseSession

variable {session last : DatabaseSession}

/-- No statement removes an address. -/
theorem lookups_subset_after (statement : Statement) (now : Nat) :
    session.tables.lookups ⊆ (session.after now statement).tables.lookups := by
  cases statement with
  | enqueueLookups addresses => exact fun _ noted => LookupBatch.mem_insertAll.mpr (.inr noted)
  | claim queue timeout =>
      simp only [after, Tables.apply, Tables.claim]
      split <;> exact List.Subset.refl _
  | _ => exact List.Subset.refl _

theorem lookups_subset_of_leads {calls : List (AnsweredCall Wire)}
    (leads : Servant.Leads Serves session calls last) :
    session.tables.lookups ⊆ last.tables.lookups := by
  induction leads with
  | nothing => exact List.Subset.refl _
  | next first _ ih =>
      refine List.Subset.trans ?_ ih
      cases first with
      | carriedOut now => exact lookups_subset_after _ now
      | failed | givenBack | elsewhere => exact List.Subset.refl _

end DatabaseSession

namespace Configuration

variable {configuration : Configuration} {session last : DatabaseSession}

theorem Provides.lookups_subset {answered : AnsweredCall Services}
    (provides : configuration.Provides session answered last) :
    session.tables.lookups ⊆ last.tables.lookups := by
  cases provides with
  | answered _ leads => exact DatabaseSession.lookups_subset_of_leads leads
  | givenUp _ leads => exact DatabaseSession.lookups_subset_of_leads leads

theorem recounts_enqueueLookups {addresses : List Address} (session : DatabaseSession) :
    DatabaseSession.Recounts (fun _ => True)
      (fun outcome last _ => outcome = .ok () → addresses ⊆ last.tables.lookups)
      (SwapStore.enqueueLookups addresses) session := by
  rw [SwapStore.enqueueLookups]
  split_ifs with nothing
  · refine Program.recounts_pure fun _ => ?_
    rw [List.isEmpty_iff.mp nothing]
    exact List.nil_subset _
  · refine @DatabaseSession.recounts_query session (fun _ => True) (.enqueueLookups addresses) _
      trivial (fun _ => trivial) ?_ ?_
    · intro now calls _ _ address asked
      exact LookupBatch.mem_insertAll.mpr (.inl asked)
    · rintro failure uncommitted calls _ ⟨⟩

theorem Provides.noted {addresses : List Address} (provides :
    configuration.Provides session ⟨.store (.enqueueLookups addresses), some (.ok ())⟩ last) :
    addresses ⊆ last.tables.lookups := by
  cases provides with
  | answered reaches leads =>
      have recounts : DatabaseSession.Recounts (fun _ => True)
          (fun outcome last _ => outcome = .ok () → addresses ⊆ last.tables.lookups)
          (configuration.provide (.store (.enqueueLookups addresses))) session := by
        refine .bind ((recounts_enqueueLookups session).mono ?_)
        rintro (failure | ⟨⟩) middle calls noted
        · exact Program.recounts_pure nofun
        · exact Program.recounts_pure fun _ => noted rfl
      exact (recounts.reaches reaches leads trivial).2 _ rfl rfl

theorem exists_provides_enqueueLookups (addresses : List Address) (session : DatabaseSession) :
    ∃ last, configuration.Provides session ⟨.store (.enqueueLookups addresses), some (.ok ())⟩
      last := by
  suffices possible : ∃ last, (SwapStore.enqueueLookups addresses).Completes DatabaseSession.Serves
      session (.ok ()) last by
    rcases possible with ⟨last, completes⟩
    exact ⟨last, provides_of_completes (Program.completes_bind.mpr ⟨_, _, completes, rfl, rfl⟩)⟩
  rw [SwapStore.enqueueLookups]
  split_ifs
  · exact ⟨session, rfl, rfl⟩
  · exact ⟨_, DatabaseSession.completes_query 0 (.enqueueLookups addresses)⟩

end Configuration

/-! ### A search that nobody interferes with -/

/-- The database, and what the parts of an instance share. -/
structure Premises where
  session : DatabaseSession
  shared : Shared

namespace Premises

/-- How calls are answered: those that concern what is shared from there, all others over the
database. -/
inductive Serves (configuration : Configuration) : Servant Services Premises where
  | within {session : DatabaseSession} {shared next : Shared} {call : SharedCall}
      {answer : Option call.Answer}
      (served : Shared.Serves shared ⟨.shared call, answer⟩ next) :
      Serves configuration ⟨session, shared⟩ ⟨.shared call, answer⟩ ⟨session, next⟩
  | outside {session last : DatabaseSession} {shared : Shared} {answered : AnsweredCall Services}
      (unshared : ∀ call, answered.call ≠ .shared call)
      (provided : configuration.Provides session answered last) :
      Serves configuration ⟨session, shared⟩ answered ⟨last, shared⟩

variable {configuration : Configuration} {premises last : Premises}
  {calls : List (AnsweredCall Services)}

/-- To the database nothing is different. -/
theorem provides_of_leads (leads : Servant.Leads (Serves configuration) premises calls last) :
    Servant.Leads configuration.Provides premises.session calls last.session := by
  induction leads with
  | nothing => exact .nothing _
  | next first _ ih =>
      refine .next ?_ ih
      cases first with
      | @within _ _ _ call answer _ =>
          cases answer with
          | none => exact .givenUp (.here _) (.nothing _)
          | some answer => exact Configuration.provides_shared call answer
      | outside _ provided => exact provided

theorem lookups_subset (leads : Servant.Leads (Serves configuration) premises calls last) :
    premises.session.tables.lookups ⊆ last.session.tables.lookups := by
  induction leads with
  | nothing => exact List.Subset.refl _
  | next first _ ih =>
      refine List.Subset.trans ?_ ih
      cases first with
      | within => exact List.Subset.refl _
      | outside _ provided => exact provided.lookups_subset

/-- Whether addresses wait to be written down, and there is someone to do so. -/
structure Awaits (wanted : List Address) (premises : Premises) : Prop where
  received : premises.shared.lookups.received = true
  pending : ∀ address ∈ wanted, address ≠ "" → address ∈ premises.shared.lookups.pending

variable {wanted : List Address} {Result Other : Type}

variable (configuration) in
/-- Whether something holds in the end of a program that is run on the premises. -/
abbrev Ends (ends : Result → Premises → Prop) (program : Program Services Result)
    (premises : Premises) : Prop :=
  program.Recounts (Serves configuration) (fun _ => True) (fun result last _ => ends result last)
    premises

/-- What calls the database leaves alone what waits. -/
theorem ends_call {call : ServiceCall} {ends : call.Answer → Premises → Prop}
    (unshared : ∀ other, call ≠ .shared other)
    (answered : ∀ answer session, configuration.Provides premises.session ⟨call, some answer⟩
      session → ends answer ⟨session, premises.shared⟩) :
    Ends configuration ends (@Program.call Services call) premises := by
  intro answer next served
  refine ⟨trivial, ?_⟩
  change Serves configuration premises ⟨call, some answer⟩ next at served
  cases served with
  | within => exact absurd rfl (unshared _)
  | outside _ provided => exact answered _ _ provided

theorem ends_report {entry : LogEntry} {ends : Other → Premises → Prop}
    {program : Program Services Other} (later : Ends configuration ends program premises) :
    Ends configuration ends (Program.report entry >>= fun _ => program) premises := by
  rintro _ _ rfl
  exact ⟨trivial, later⟩

/-- An address that is asked for waits, unless it is the empty one. -/
theorem Awaits.add {address : Address} {lost : Bool} (awaits : Awaits wanted premises)
    (served : Serves configuration premises ⟨.shared (.addLookup address), some lost⟩ last) :
    Awaits (wanted ++ [address]) last := by
  rcases awaits with ⟨received, pending⟩
  cases served with
  | outside unshared => exact absurd rfl (unshared _)
  | @within session shared next _ _ served =>
      have added : next.lookups = shared.lookups.add address := by
        cases served with
        | answered moment told =>
            injection told with _ changed
            rw [← changed]
        | elsewhere outside => exact absurd rfl (outside _)
      have kept : next.lookups.received = true ∧
          ∀ other ∈ shared.lookups.pending ++ [address], other ≠ "" →
            other ∈ next.lookups.pending := by
        rw [added, Lookups.add]
        split_ifs with useless
        · have empty := useless.resolve_right (by simpa using received)
          subst empty
          refine ⟨received, fun other member useful => ?_⟩
          exact (List.mem_append.mp member).resolve_right (by simpa using useful)
        · exact ⟨received, fun other member _ => member⟩
      refine ⟨kept.1, fun other member useful => kept.2 other ?_ useful⟩
      rcases List.mem_append.mp member with earlier | this
      · exact List.mem_append_left _ (pending other earlier useful)
      · exact List.mem_append_right _ this

theorem ends_addLookups (awaits : Awaits wanted premises) (addresses : List Address) :
    Ends configuration (fun _ last => Awaits (wanted ++ addresses) last)
      (Worker.addLookups addresses) premises := by
  induction addresses generalizing wanted premises with
  | nil =>
      rw [List.append_nil]
      exact Program.recounts_pure awaits
  | cons address rest ih =>
      intro lost next served
      have later := ih (awaits.add served)
      rw [List.append_assoc, List.singleton_append] at later
      refine ⟨trivial, ?_⟩
      cases lost with
      | false => exact later
      | true => exact ends_report later

/-- What waits is written down if it can be. -/
theorem ends_flushLookups (awaits : Awaits wanted premises) :
    Ends configuration (fun outcome last => outcome = .ok () →
      ∀ address ∈ wanted, address ≠ "" → address ∈ last.session.tables.lookups)
      Indexer.flushLookups premises := by
  refine .bind fun batch next served => ⟨trivial, ?_⟩
  change Serves configuration premises ⟨.shared .takeLookups, some batch⟩ next at served
  have taken : batch = premises.shared.lookups.batch := by
    cases served with
    | outside unshared => exact absurd rfl (unshared _)
    | within served =>
        cases served with
        | answered moment told =>
            injection told with same
            exact same.symm
        | elsewhere outside => exact absurd rfl (outside _)
  have waiting : ∀ address ∈ wanted, address ≠ "" → address ∈ batch := by
    intro address member useful
    rw [taken]
    exact Lookups.mem_batch.mpr (awaits.pending address member useful)
  change Program.Recounts _ _ _ (if batch.isEmpty then _ else _) next
  split
  · case isTrue nothing =>
      rw [List.isEmpty_iff.mp nothing] at waiting
      refine Program.recounts_pure fun _ address member useful => ?_
      exact absurd (waiting address member useful) List.not_mem_nil
  · refine ends_call nofun ?_
    rintro (failure | ⟨⟩) session provided
    · nofun
    · intro _ address member useful
      exact provided.noted (waiting address member useful)

variable {signature : String} {confirmed : ConfirmedTransaction}

/-- How a search ends whose swaps, if it succeeds, are all looked up. -/
def LooksUp (outcome : Except Failure (List SwapRecord)) (last : Premises) : Prop :=
  ∀ swaps, outcome = .ok swaps → ∀ address ∈ swaps.flatMap (·.lookups), address ≠ "" →
    address ∈ last.session.tables.lookups

theorem looksUp_error {failure : Failure} : LooksUp (.error failure) last := by
  rintro swaps ⟨⟩

/-- Detecting and storing anew asks for the addresses of what is found, and what it asks for still
waits when the rows have been stored. -/
theorem ends_storeAnew {deleted : Nat} (awaits : Awaits [] premises) :
    Ends configuration LooksUp (Indexer.storeAnew signature deleted confirmed) premises := by
  rw [Indexer.storeAnew]
  split
  · refine ends_report (Program.recounts_pure ?_)
    rintro swaps ⟨⟩ address member
    cases member
  · split
    · exact Program.recounts_pure looksUp_error
    · case h_2 transaction _ =>
        refine Program.recounts_reportAll trivial ?_
        refine .bind ((ends_addLookups awaits _).mono ?_)
        intro _ asked _ awaits
        refine .onSuccess (ends_call (by simp) ?_)
        rintro (failure | ⟨⟩) session _
        · exact looksUp_error
        · have waits : Awaits _ ⟨session, asked.shared⟩ := ⟨awaits.received, awaits.pending⟩
          refine .onSuccess ((ends_flushLookups waits).mono ?_)
          rintro (failure | ⟨⟩) last _ noted
          · exact looksUp_error
          · refine ends_report (Program.recounts_pure ?_)
            rintro swaps ⟨⟩
            exact noted rfl

theorem ends_reprocess (awaits : Awaits [] premises) :
    Ends configuration LooksUp (Indexer.reprocess configuration signature) premises := by
  rw [Indexer.reprocess]
  split
  · exact Program.recounts_pure looksUp_error
  split
  · exact Program.recounts_pure looksUp_error
  refine .onSuccess (ends_call (by simp) ?_)
  rintro (failure | confirmed) told _
  · exact looksUp_error
  refine .onSuccess (ends_call (by simp) ?_)
  rintro (failure | deleted) removed _
  · exact looksUp_error
  · exact ends_storeAnew ⟨awaits.received, by simp⟩

end Premises

/-! ### What a search replaces -/

/-- Whether a call asks no node. -/
def ServiceCall.withoutNodes : ServiceCall → Bool
  | .node _ _ => false
  | _ => true

namespace EncodedTransaction

/-- The signature that comes first, where the transaction is spelled out. -/
def firstSignature? (encoded : EncodedTransaction) : Option String :=
  match encoded.body with
  | .spelledOut (signature :: _) _ => some signature
  | _ => none

theorem signature_of_decode {encoded : EncodedTransaction} {transaction : Transaction}
    (read : encoded.decode = .ok transaction) :
    encoded.firstSignature? = some transaction.signature := by
  rcases encoded with ⟨_ | ⟨_ | ⟨signature, rest⟩, _ | ⟨keys, instructions⟩⟩ | _, record⟩
  case spelledOut.cons.raw =>
    cases record with
    | none => cases read
    | some record =>
        cases read
        rfl
  all_goals cases read

/-- Whether nothing is known to have come of the transaction: it has no record, or one of a
failure. -/
def ineffective (encoded : EncodedTransaction) : Bool := encoded.record.all (·.failed)

theorem succeeded_eq (encoded : EncodedTransaction) :
    encoded.succeeded = !encoded.ineffective := by
  rw [succeeded, ineffective]
  cases encoded.record <;> rfl

end EncodedTransaction

namespace Indexer

/-- What a search for the swaps of a transaction has found, and what it leaves behind. -/
structure Replaces (signature : String) (confirmed : ConfirmedTransaction)
    (swaps : List SwapRecord) (before after : Tables) : Prop where
  /-- Nothing is found in a transaction of which nothing came. -/
  nothing : confirmed.transaction.ineffective = true → swaps = []
  found : confirmed.transaction.ineffective = false → ∃ transaction,
    confirmed.transaction.decode = .ok transaction ∧ swaps = confirmed.swaps transaction
  /-- Of the rows of one key only the first is kept. -/
  own : after.swaps.filter (·.id == signature) = SwapRecord.addAllByKey [] (swaps.map (·.toRow))
  others : after.swaps.filter (·.id != signature) = before.swaps.filter (·.id != signature)
  noted : ∀ swap ∈ swaps, ∀ address ∈ [swap.token, swap.pair], address ≠ "" →
    address ∈ after.lookups
  kept : before.lookups ⊆ after.lookups

variable {configuration : Configuration} {signature : String} {premises last : Premises}
  {calls : List (AnsweredCall Services)} {swaps : List SwapRecord}

theorem own_and_others_of_added {rows after : List SwapRecord}
    (own : ∀ swap ∈ swaps, swap.id = signature)
    (added : after = SwapRecord.addAllByKey (rows.filter (·.id != signature))
      (swaps.map (·.toRow))) :
    after.filter (·.id == signature) = SwapRecord.addAllByKey [] (swaps.map (·.toRow)) ∧
      after.filter (·.id != signature) = rows.filter (·.id != signature) := by
  have of_signature : ∀ row ∈ swaps.map (·.toRow), row.id = signature := by
    intro row member
    rcases List.mem_map.mp member with ⟨swap, found, rfl⟩
    exact own swap found
  subst added
  constructor
  · rw [@SwapRecord.filter_addAllByKey _ _ (· == signature), List.filter_filter]
    · simp [bne]
    · simpa using of_signature
  · rw [@SwapRecord.filter_addAllByKey_of_not _ _ (· != signature), List.filter_filter]
    · simp
    · simpa using of_signature

/-- A search that succeeds replaces the swaps of its transaction and nothing else. Its rows are
removed by the signature asked for and added under the one that was read, which is the same; the
addresses are those that wait in the channel. An indexer that searches has its own end of the
channel still: it gives it up only when it starts, and then it does nothing else any more. -/
theorem reprocess_replaces
    (reaches : (reprocess configuration signature).Reaches calls (.done (.ok swaps)))
    (leads : Servant.Leads (Premises.Serves configuration) premises calls last)
    (received : premises.shared.lookups.received = true)
    (carries : ∀ confirmed, Tells signature confirmed calls →
      confirmed.transaction.firstSignature?.all (· = signature)) :
    ∃ confirmed, Tells signature confirmed calls ∧
      Replaces signature confirmed swaps premises.session.tables last.session.tables := by
  have provided := Premises.provides_of_leads leads
  have ended := ((recounts_reprocess premises.session).reaches reaches provided trivial).2 _ rfl
  have looked := ((Premises.ends_reprocess ⟨received, nofun⟩).reaches reaches leads trivial).2 _ rfl
  have kept := Premises.lookups_subset leads
  have noted : ∀ swap ∈ swaps, ∀ address ∈ [swap.token, swap.pair], address ≠ "" →
      address ∈ last.session.tables.lookups := fun swap member address part =>
    looked swaps rfl address (List.mem_flatMap.mpr ⟨swap, member, part⟩)
  generalize rows_eq : last.session.tables.swaps = rows at ended
  cases ended with
  | @anew confirmed _ _ told _ stores =>
      refine ⟨confirmed, told, ?_⟩
      cases stores with
      | ineffective failed =>
          have nothing : confirmed.transaction.ineffective = true := by
            simpa [EncodedTransaction.succeeded_eq] using failed
          rcases @own_and_others_of_added signature [] _ _ (by simp) rows_eq with ⟨own, others⟩
          refine ⟨fun _ => rfl, fun effective => ?_, own, others, noted, kept⟩
          rw [nothing] at effective
          cases effective
      | @stored transaction succeeded read _ =>
          have effective : confirmed.transaction.ineffective = false := by
            simpa [EncodedTransaction.succeeded_eq] using succeeded
          have signed : transaction.signature = signature := by
            have first := carries confirmed told
            rw [EncodedTransaction.signature_of_decode read] at first
            simpa using first
          have of_signature : ∀ swap ∈ confirmed.swaps transaction, swap.id = signature :=
            fun swap found => (Transaction.id_of_mem_swaps found).trans signed
          rcases own_and_others_of_added of_signature rows_eq with ⟨own, others⟩
          refine ⟨fun nothing => ?_, fun _ => ⟨transaction, read, rfl⟩, own, others, noted, kept⟩
          rw [effective] at nothing
          cases nothing

/-! ### A search that nothing gets in the way of -/

section Possible

open Program Premises

variable {session : DatabaseSession} {shared : Shared}

theorem exists_completes_addLookups (addresses : List Address) :
    ∃ next, (Worker.addLookups addresses).Completes (Serves configuration) ⟨session, shared⟩ ()
      ⟨session, next⟩ := by
  induction addresses generalizing shared with
  | nil => exact ⟨shared, rfl, rfl⟩
  | cons address rest ih =>
      rcases @ih { shared with lookups := shared.lookups.add address } with ⟨next, later⟩
      have served : Serves configuration ⟨session, shared⟩
          ⟨.shared (.addLookup address), some (shared.lookups.loses address)⟩
          ⟨session, { shared with lookups := shared.lookups.add address }⟩ :=
        .within (.answered ⟨0, 0, 0, false⟩ rfl)
      refine ⟨next, _, _, served, ?_⟩
      cases shared.lookups.loses address with
      | false => exact later
      | true => exact ⟨(), _, rfl, later⟩

theorem exists_completes_flushLookups :
    ∃ last, flushLookups.Completes (Serves configuration) ⟨session, shared⟩ (.ok ()) last := by
  have taken : Serves configuration ⟨session, shared⟩
      ⟨.shared .takeLookups, some shared.lookups.batch⟩
      ⟨session, { shared with lookups := shared.lookups.drained }⟩ :=
    .within (.answered ⟨0, 0, 0, false⟩ rfl)
  rcases configuration.exists_provides_enqueueLookups shared.lookups.batch session with
    ⟨last, written⟩
  let rest : Shared := { shared with lookups := shared.lookups.drained }
  by_cases nothing : shared.lookups.batch.isEmpty = true
  · refine ⟨⟨session, rest⟩, completes_bind.mpr ⟨_, _, completes_request.mpr taken, ?_⟩⟩
    rw [if_pos nothing]
    exact ⟨rfl, rfl⟩
  · refine ⟨⟨last, rest⟩, completes_bind.mpr ⟨_, _, completes_request.mpr taken, ?_⟩⟩
    rw [if_neg nothing]
    exact completes_request.mpr (.outside nofun written)

theorem exists_completes_storeAnew {confirmed : ConfirmedTransaction} {transaction : Transaction}
    (succeeded : confirmed.transaction.succeeded = true)
    (read : confirmed.transaction.decode = .ok transaction) (deleted : Nat) :
    ∃ last, (storeAnew signature deleted confirmed).Completes (Serves configuration)
      ⟨session, shared⟩ (.ok (confirmed.swaps transaction)) last := by
  rcases @exists_completes_addLookups configuration session shared
    ((confirmed.swaps transaction).flatMap (·.lookups)) with ⟨asked, asks⟩
  rcases configuration.exists_provides_insertSwaps (confirmed.swaps transaction) session with
    ⟨stored, stores⟩
  rcases @exists_completes_flushLookups configuration stored asked with ⟨last, flushes⟩
  refine ⟨last, ?_⟩
  rw [storeAnew, if_neg (by simp [succeeded]), read]
  refine completes_bind.mpr ⟨(), _, completes_reportAll, ?_⟩
  refine completes_bind.mpr ⟨(), _, asks, ?_⟩
  refine completes_bind.mpr ⟨.ok (), ⟨stored, asked⟩,
    completes_request.mpr (.outside (by simp) stores), ?_⟩
  exact completes_bind.mpr ⟨.ok (), last, flushes, (), last, rfl, rfl, rfl⟩

/-- Nothing is asked of a node any more once there is something to store. -/
theorem storeAnew_silent {confirmed : ConfirmedTransaction} {deleted : Nat} :
    (storeAnew signature deleted confirmed).Silent (.except ServiceCall.withoutNodes) := by
  rw [storeAnew]
  split
  · exact (silent_request rfl).bind fun _ => silent_pure
  · split
    · exact silent_pure
    · refine silent_reportAll.bind fun _ => ?_
      refine ((Worker.addLookups_settling _).widen ?_).bind fun _ => ?_
      · intro call made
        cases call with
        | node => cases made
        | _ => rfl
      refine (silent_except_call rfl).bind fun outcome => ?_
      rcases outcome with failure | ⟨⟩
      · exact silent_pure
      refine Silent.bind ((silent_except_call rfl).bind fun batch => ?_) fun outcome => ?_
      · split
        · exact silent_pure
        · exact silent_except_call rfl
      · rcases outcome with failure | ⟨⟩
        · exact silent_pure
        · exact (silent_request rfl).bind fun _ => silent_pure

/-- The two trades as a transaction that is asked for by its signature. -/
def signedTrades : Transaction := { Transaction.routedTrades with signature := ones }

/-- How the node tells of the trades. -/
def tradesAnswer : Json :=
  let entry : BlockEntry := ⟨signedTrades, false⟩
  .object [("result", .object [("slot", .ofNat 250000000), ("transaction", entry.body),
    ("meta", signedTrades.record false), ("version", .ofNat 0),
    ("blockTime", .ofNat 1700000000)])]

def confirmedTrades : ConfirmedTransaction :=
  ⟨250000000, some 1700000000, BlockEntry.encoded ⟨signedTrades, false⟩⟩

theorem read_tradesAnswer : (NodeAnswer.parse tradesAnswer.compact).read
    "struct EncodedConfirmedTransactionWithStatusMeta" ConfirmedTransaction.ofJson?
    (fun refusal => .rpcClient refusal.message) = .ok confirmedTrades := by
  have ordinary : Json.Ordinary Json.Reader.greatestDepth tradesAnswer := by
    have body := BlockEntry.ordinary_body ⟨signedTrades, false⟩ 120
    have record := signedTrades.ordinary_record 119 false
    have slot := Json.ordinary_u64 125 250000000
    have version := Json.ordinary_u64 125 0
    have time := Json.ordinary_u64 125 1700000000
    apply Json.Ordinary.object
    simpa [Json.ordinary_object_iff] using ⟨slot, body, record, version, time⟩
  rw [NodeAnswer.parse, Json.parseWhole?, Json.parse?_compact ordinary]
  decide +kernel

/-- A row that is stale, one of another transaction, and lookups that have been noted before. -/
def storedBefore : DatabaseSession :=
  ⟨{ Tables.empty with
    swaps := [{ DatabaseSession.share "stale" with id := ones }, DatabaseSession.share "other"],
    lookups := ["earlier"] }, []⟩

/-- The trades take the place of the stale row. -/
theorem reprocess_replaces_stale : ∃ calls last swaps,
    (reprocess .oneNode ones).HasRun (Serves .oneNode) ⟨storedBefore, .initial 1⟩ calls (.ok swaps)
        last ∧
      swaps.length = 2 ∧
      ∃ confirmed, Tells ones confirmed calls ∧
        Replaces ones confirmed swaps storedBefore.tables last.session.tables := by
  have signed : Signature.check ones = .ok () := by decide +kernel
  have found : NodeRpc.endpoint "http://node" = .ok "http://node/" := by decide +kernel
  have tells : Configuration.oneNode.Provides storedBefore
      ⟨.node 0 (.transaction ones), some (.ok confirmedTrades)⟩ storedBefore :=
    Configuration.provides_transaction found read_tradesAnswer
  rcases Configuration.oneNode.exists_provides_deleteSwaps ones storedBefore with
    ⟨count, cleared, removed⟩
  have read : confirmedTrades.transaction.decode = .ok signedTrades :=
    BlockEntry.decode_encoded _ (by decide)
  rcases @exists_completes_storeAnew .oneNode ones cleared (.initial 1) confirmedTrades _ rfl read
    count with ⟨last, completes⟩
  rcases completes.hasRun with ⟨stores, stored⟩
  let calls : List (AnsweredCall Services) :=
    ⟨.node 0 (.transaction ones), some (.ok confirmedTrades)⟩ ::
      ⟨.store (.deleteSwaps ones), some (.ok count)⟩ :: stores
  have run : (reprocess .oneNode ones).HasRun (Serves .oneNode) ⟨storedBefore, .initial 1⟩ calls
      (.ok (confirmedTrades.swaps signedTrades)) last := by
    rw [reprocess, signed]
    exact (hasRun_call (.outside (by simp) tells)).bind
      ((hasRun_call (.outside (by simp) removed)).bind stored)
  have once : ∀ confirmed, Tells ones confirmed calls →
      confirmed.transaction.firstSignature?.all (· = ones) := by
    intro confirmed told
    rcases List.mem_cons.mp told with same | later
    · have told_eq : confirmed = confirmedTrades := by simpa using same
      rw [told_eq, show confirmedTrades.transaction.firstSignature? = some ones from rfl]
      simp
    rcases List.mem_cons.mp later with ⟨⟨⟩⟩ | later
    have silent := storeAnew_silent.of_reaches stored.reaches _ later
    cases silent
  refine ⟨_, last, _, run, by decide +kernel, ?_⟩
  exact reprocess_replaces run.reaches run.leads rfl once

end Possible

end Indexer

end SwapLedger
