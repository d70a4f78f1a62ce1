import SwapLedger.Deployment
import SwapLedger.Proofs.CallLimits
import SwapLedger.Proofs.SwapInsertion

/-!
# Services over a database

A configuration provides every service by a program over the wire, and what that program does to the
database is what the call does. The stored swaps are changed by two calls only, which store swaps or
remove those of a transaction; each of them does so as a whole just if it succeeds.
-/

namespace SwapLedger

namespace Program

variable {interface : Interface} {World Result : Type} {only : interface.Call → Bool}

/-- A program makes no calls but those that it may. -/
theorem Silent.of_reaches {program rest : Program interface Result}
    {calls : List (AnsweredCall interface)} (silent : program.Silent (.except only))
    (reaches : program.Reaches calls rest) : ∀ answered ∈ calls, only answered.call = true := by
  induction reaches with
  | here program => nofun
  | @ask request resume calls rest answer later ih =>
      intro answered member
      rcases List.mem_append.mp member with first | later
      · have called := Request.call?_of_answeredCall? (Option.mem_toList.mp first)
        simpa [Discipline.except] using silent.1 _ called none
      · exact ih (silent.2 answer) answered later

/-- To what a program recounts can be added which calls it makes. -/
theorem Recounts.limited {servant : Servant interface World} {always : World → Prop}
    {ends : Result → World → List (AnsweredCall interface) → Prop} {world : World}
    {program : Program interface Result} (recounts : program.Recounts servant always ends world)
    (silent : program.Silent (.except only)) :
    program.Recounts servant always (fun result last calls =>
      ends result last calls ∧ ∀ answered ∈ calls, only answered.call = true) world := by
  induction program generalizing world ends with
  | done result => exact ⟨recounts, nofun⟩
  | ask request resume ih =>
      intro answer middle answers
      rcases recounts answer middle answers with ⟨holds, later⟩
      refine ⟨holds, (ih answer later (silent.2 answer)).mono ?_⟩
      rintro result last calls ⟨ended, limited⟩
      refine ⟨ended, ?_⟩
      intro answered member
      rcases List.mem_append.mp member with first | later
      · have called := Request.call?_of_answeredCall? (Option.mem_toList.mp first)
        simpa [Discipline.except] using silent.1 _ called none
      · exact limited answered later

end Program

namespace WireCall

/-- Whether a call cannot change which swaps are stored. -/
def sparing : WireCall → Bool
  | .database (.execute .commit) | .database (.execute (.deleteSwaps _)) => false
  | _ => true

end WireCall

namespace DatabaseSession

variable {session last : DatabaseSession}

/-- A statement that spares the swaps leaves their rows as they are. -/
theorem swaps_after {statement : Statement}
    (sparing : WireCall.sparing (.database (.execute statement)) = true) (now : Nat) :
    (session.after now statement).tables.swaps = session.tables.swaps := by
  cases statement with
  | commit | deleteSwaps => cases sparing
  | claim queue timeout =>
      simp only [after, Tables.apply, Tables.claim]
      split <;> rfl
  | _ => rfl

/-- Calls that spare the swaps leave their rows as they are. -/
theorem swaps_of_leads {calls : List (AnsweredCall Wire)}
    (sparing : ∀ answered ∈ calls, WireCall.sparing answered.call = true)
    (leads : Servant.Leads Serves session calls last) :
    last.tables.swaps = session.tables.swaps := by
  induction leads with
  | nothing => rfl
  | next first _ ih =>
      rcases List.forall_mem_cons.mp sparing with ⟨spares, rest⟩
      rw [ih rest]
      cases first with
      | carriedOut now => exact swaps_after spares now
      | failed | givenBack | elsewhere => rfl

/-- A program that spares the swaps leaves their rows as they are, wherever it stops. -/
theorem swaps_of_silent {Result : Type} {program rest : Program Wire Result}
    {calls : List (AnsweredCall Wire)} (silent : program.Silent (.except WireCall.sparing))
    (reaches : program.Reaches calls rest) (leads : Servant.Leads Serves session calls last) :
    last.tables.swaps = session.tables.swaps :=
  swaps_of_leads (silent.of_reaches reaches) leads

end DatabaseSession

/-! ### Programs that spare the stored swaps -/

namespace SwapStore

open Program

theorem query_sparing {statement : Statement}
    (sparing : WireCall.sparing (.database (.execute statement)) = true) :
    (query statement).Silent (.except WireCall.sparing) := by
  refine (silent_except_call rfl).bind fun outcome => ?_
  cases outcome with
  | error failure => exact silent_pure
  | ok _ =>
      refine (silent_except_call sparing).bind fun outcome => ?_
      exact (silent_except_call rfl).bind fun _ => silent_pure

theorem queryAll_sparing {statements : List Statement}
    (sparing : ∀ statement ∈ statements,
      WireCall.sparing (.database (.execute statement)) = true) :
    (queryAll statements).Silent (.except WireCall.sparing) := by
  induction statements with
  | nil => exact silent_pure
  | cons statement rest ih =>
      rcases List.forall_mem_cons.mp sparing with ⟨first, later⟩
      refine (query_sparing first).bind fun outcome => ?_
      cases outcome with
      | error failure => exact silent_pure
      | ok _ => exact ih later

theorem connect_sparing (address : String) (connections : Nat) :
    (connect address connections).Silent (.except WireCall.sparing) := by
  rw [connect]
  split
  · exact silent_pure
  · refine (silent_except_call rfl).bind fun _ => (silent_except_call rfl).bind fun outcome => ?_
    cases outcome with
    | error failure => exact silent_pure
    | ok _ => exact (silent_except_call rfl).bind fun _ => silent_pure

theorem enqueueLookups_sparing (addresses : List Address) :
    (enqueueLookups addresses).Silent (.except WireCall.sparing) := by
  rw [enqueueLookups]
  split
  · exact silent_pure
  · exact query_sparing rfl

end SwapStore

namespace TableQueue

open Program

variable (queue : TableQueue)

theorem rest_sparing : queue.rest.Silent (.except WireCall.sparing) :=
  (silent_request rfl).unlessStopped.bind fun _ => silent_pure

/-- To consume from the queue in the database spares the swaps, whether or not a row is claimed. -/
theorem consume_sparing : queue.consume.Silent (.except WireCall.sparing) := by
  refine (silent_except_call rfl).bind fun reserved => ?_
  cases reserved with
  | false => exact queue.rest_sparing
  | true =>
      refine (SwapStore.query_sparing rfl).unlessStopped.bind fun outcome => ?_
      rcases outcome with _ | failure | _ | row
      · exact (silent_except_call rfl).bind fun _ => silent_pure
      · exact (silent_except_call rfl).bind fun _ => silent_pure
      · exact (silent_except_call rfl).bind fun _ => queue.rest_sparing
      · exact silent_pure

theorem settle_sparing {statement : Statement}
    (sparing : WireCall.sparing (.database (.execute statement)) = true) :
    (queue.settle statement).Silent (.except WireCall.sparing) := by
  refine (SwapStore.query_sparing sparing).bind fun outcome => ?_
  refine (silent_except_call rfl).bind fun _ => ?_
  cases outcome with
  | ok _ => exact silent_pure
  | error failure => exact silent_pure

/-- Every call of the queue in the database spares the swaps. -/
theorem serve_sparing (call : QueueCall) :
    (queue.serve call).Silent (.except WireCall.sparing) := by
  cases call with
  | createTables =>
      exact (SwapStore.queryAll_sparing (by decide)).bind fun _ => silent_pure
  | publish item => exact (SwapStore.query_sparing rfl).bind fun _ => silent_pure
  | consume => exact queue.consume_sparing
  | acknowledge tag => exact queue.settle_sparing rfl
  | reject tag requeue =>
      cases requeue with
      | true => exact queue.settle_sparing rfl
      | false =>
          refine (queue.settle_sparing rfl).bind fun outcome => ?_
          cases outcome with
          | ok _ => exact (silent_request rfl).bind fun _ => silent_pure
          | error failure => exact silent_pure
  | depth => exact (SwapStore.query_sparing rfl).bind fun _ => silent_pure
  | setPrefetch limit => exact (silent_except_call rfl).bind fun _ => silent_pure
  | reconnect => exact (SwapStore.query_sparing rfl).bind fun _ => silent_pure

end TableQueue

namespace NodeRpc

open Program

theorem exchange_sparing (request : NodeRequest) (repeats : Nat) :
    (exchange request repeats).Silent (.except WireCall.sparing) := by
  induction repeats with
  | zero =>
      rw [exchange]
      exact (silent_except_call rfl).bind fun _ => silent_pure
  | succ repeats ih =>
      rw [exchange]
      refine (silent_except_call rfl).bind fun reply => ?_
      cases wait? reply with
      | none => exact silent_pure
      | some wait => exact (silent_request rfl).bind fun _ => ih

theorem ask_sparing (url method : String) (params : List Json) :
    (ask url method params).Silent (.except WireCall.sparing) := by
  rw [ask]
  split
  · exact silent_pure
  · exact exchange_sparing _ _

/-- Every call of a node spares the swaps. -/
theorem call_sparing (url : String) (commitment : Commitment) (call : NodeCall) :
    (NodeRpc.call url commitment call).Silent (.except WireCall.sparing) := by
  cases call with
  | block | tip | transaction => exact (ask_sparing _ _ _).bind fun _ => silent_pure

end NodeRpc

namespace ServiceCall

/-- Whether a call cannot change which swaps are stored. -/
def sparing : ServiceCall → Bool
  | .store (.insertSwaps _) | .store (.deleteSwaps _) => false
  | _ => true

theorem sparing_of_settling {call : ServiceCall} (made : Worker.settling call = true) :
    call.sparing = true := by
  unfold Worker.settling at made
  unfold sparing
  split <;> simp_all

end ServiceCall

/-- Whether swaps were seen to be stored. -/
def Services.Stores (swaps : List SwapRecord) (calls : List (AnsweredCall Services)) : Prop :=
  (⟨.store (.insertSwaps swaps), some (.ok ())⟩ : AnsweredCall Services) ∈ calls

namespace Configuration

open Program

variable (configuration : Configuration)

/-- What is provided for a call that spares the swaps spares them as well. -/
theorem provide_sparing {call : ServiceCall} (sparing : call.sparing = true) :
    (configuration.provide call).Silent (.except WireCall.sparing) := by
  cases call with
  | queue call =>
      rw [provide, provideQueue]
      split
      · exact configuration.tableQueue.serve_sparing call
      · exact silent_except_call rfl
  | store call =>
      cases call with
      | insertSwaps | deleteSwaps => cases sparing
      | connect => exact (SwapStore.connect_sparing _ _).bind fun _ => silent_pure
      | createTables =>
          exact (SwapStore.queryAll_sparing (by decide)).bind fun _ => silent_pure
      | markProcessed | missingBlocks =>
          exact (SwapStore.query_sparing rfl).bind fun _ => silent_pure
      | enqueueLookups addresses =>
          exact (SwapStore.enqueueLookups_sparing addresses).bind fun _ => silent_pure
      | close => exact silent_except_call rfl
  | node client call =>
      have asking := NodeRpc.call_sparing (configuration.nodeUrl client) configuration.commitment
      cases call with
      | block | tip | transaction =>
          exact ((asking _).retryingFrom _ _ _ _).bind fun _ => silent_pure
  | stream call => exact silent_except_call rfl
  | shared call => exact silent_except_call rfl

/-- How services are provided over a database. A call that is given up has been carried out as far
as its program has come. -/
inductive Provides : Servant Services DatabaseSession where
  | answered {session last : DatabaseSession} {call : ServiceCall} {answer : call.Answer}
      {calls : List (AnsweredCall Wire)}
      (reaches : (configuration.provide call).Reaches calls (.done answer))
      (leads : Servant.Leads DatabaseSession.Serves session calls last) :
      Provides session ⟨call, some answer⟩ last
  | givenUp {session last : DatabaseSession} {call : ServiceCall}
      {calls : List (AnsweredCall Wire)} {rest : Program Wire call.Answer}
      (reaches : (configuration.provide call).Reaches calls rest)
      (leads : Servant.Leads DatabaseSession.Serves session calls last) :
      Provides session ⟨call, none⟩ last

variable {configuration} {session last : DatabaseSession}

/-- A call that spares the swaps leaves their rows as they are. -/
theorem Provides.spares {answered : AnsweredCall Services}
    (provides : configuration.Provides session answered last)
    (sparing : answered.call.sparing = true) : last.tables.swaps = session.tables.swaps := by
  cases provides with
  | answered reaches leads =>
      exact DatabaseSession.swaps_of_silent (configuration.provide_sparing sparing) reaches leads
  | givenUp reaches leads =>
      exact DatabaseSession.swaps_of_silent (configuration.provide_sparing sparing) reaches leads

section Store

variable {swaps : List SwapRecord} {signature : String} {failure : Failure} {count : Nat}

/-- Swaps that are stored are added to the rows by their keys. -/
theorem Provides.stored
    (provides : configuration.Provides session ⟨.store (.insertSwaps swaps), some (.ok ())⟩ last) :
    last.tables.swaps = SwapRecord.addAllByKey session.tables.swaps (swaps.map (·.toRow)) := by
  cases provides with
  | answered reaches leads =>
      have whole := DatabaseSession.storesWhole_serve configuration.databaseUrl
        SwapStore.standardConnections swaps
      rw [whole.stored reaches leads, Tables.storing]

/-- An insertion that fails leaves the rows as they are. -/
theorem Provides.unstored (provides :
    configuration.Provides session ⟨.store (.insertSwaps swaps), some (.error failure)⟩ last) :
    last.tables.swaps = session.tables.swaps := by
  cases provides with
  | answered reaches leads =>
      have whole := DatabaseSession.storesWhole_serve configuration.databaseUrl
        SwapStore.standardConnections swaps
      rw [whole.unchanged reaches leads]

/-- A removal takes away the rows of its transaction, or fails and leaves all rows as they are. -/
theorem recounts_deleteSwaps (session : DatabaseSession) :
    DatabaseSession.Recounts (fun _ => True)
      (fun outcome last _ => last.tables.swaps = match outcome with
        | .ok _ => session.tables.swaps.filter (·.id != signature)
        | .error _ => session.tables.swaps)
      (configuration.provide (.store (.deleteSwaps signature))) session := by
  have query : DatabaseSession.Recounts (fun _ => True)
      (fun outcome last _ => last.tables.swaps = match outcome with
        | .ok _ => session.tables.swaps.filter (·.id != signature)
        | .error _ => session.tables.swaps)
      (SwapStore.query (.deleteSwaps signature)) session :=
    DatabaseSession.recounts_query trivial (fun _ => trivial) (fun _ _ _ => rfl)
      fun _ _ _ _ => rfl
  refine .bind (query.mono ?_)
  rintro (failure | count) last calls same
  · exact Program.recounts_pure same
  · exact Program.recounts_pure same

/-- A removal that succeeds leaves just the rows of other transactions. -/
theorem Provides.removed (provides :
    configuration.Provides session ⟨.store (.deleteSwaps signature), some (.ok count)⟩ last) :
    last.tables.swaps = session.tables.swaps.filter (·.id != signature) := by
  cases provides with
  | answered reaches leads =>
      exact ((recounts_deleteSwaps session).reaches reaches leads trivial).2 _ rfl

/-- A removal that fails leaves the rows as they are. -/
theorem Provides.unremoved (provides :
    configuration.Provides session ⟨.store (.deleteSwaps signature), some (.error failure)⟩ last) :
    last.tables.swaps = session.tables.swaps := by
  cases provides with
  | answered reaches leads =>
      exact ((recounts_deleteSwaps session).reaches reaches leads trivial).2 _ rfl

end Store

/-! ### Calls that nothing gets in the way of -/

/-- A call is provided by any run of what stands for it that comes to an end. -/
theorem provides_of_completes {call : ServiceCall} {answer : call.Answer}
    (completes :
      (configuration.provide call).Completes DatabaseSession.Serves session answer last) :
    configuration.Provides session ⟨call, some answer⟩ last := by
  rcases completes.reaches with ⟨calls, reaches, leads⟩
  exact .answered reaches leads

theorem provides_shared (call : SharedCall) (answer : call.Answer) :
    configuration.Provides session ⟨.shared call, some answer⟩ session :=
  provides_of_completes (completes_request.mpr (.elsewhere nofun nofun))

/-- A removal can succeed, whatever is in the database. -/
theorem exists_provides_deleteSwaps (signature : String) (session : DatabaseSession) :
    ∃ count last,
      configuration.Provides session ⟨.store (.deleteSwaps signature), some (.ok count)⟩ last := by
  have query := @DatabaseSession.completes_query session 0 (.deleteSwaps signature)
  exact ⟨_, _, provides_of_completes (completes_bind.mpr ⟨_, _, query, rfl, rfl⟩)⟩

/-- An insertion can succeed, whatever is in the database. -/
theorem exists_provides_insertSwaps (swaps : List SwapRecord) (session : DatabaseSession) :
    ∃ last, configuration.Provides session ⟨.store (.insertSwaps swaps), some (.ok ())⟩ last := by
  have whole := DatabaseSession.storesWhole_serve configuration.databaseUrl
    SwapStore.standardConnections swaps
  rcases whole.possible session with ⟨calls, last, reaches, leads⟩
  exact ⟨last, .answered reaches leads⟩

/-- An acknowledgement can succeed, whatever is in the database. -/
theorem exists_provides_acknowledge (tag : Nat) (session : DatabaseSession) :
    ∃ last, configuration.Provides session ⟨.queue (.acknowledge tag), some (.ok ())⟩ last := by
  suffices possible : ∃ last, (configuration.provideQueue (.acknowledge tag)).Completes
      DatabaseSession.Serves session (.ok ()) last by
    rcases possible with ⟨last, completes⟩
    exact ⟨last, provides_of_completes completes⟩
  rw [provideQueue]
  cases configuration.queue.backend with
  | memory => exact ⟨session, completes_request.mpr (.elsewhere nofun nofun)⟩
  | postgres =>
      have query := @DatabaseSession.completes_query session 0 (.remove (Statement.integer tag))
      have freed (session : DatabaseSession) :
          (Wire.credits (.refund configuration.tableQueue.number)).Completes DatabaseSession.Serves
            session () session :=
        completes_request.mpr (.elsewhere nofun nofun)
      exact ⟨_, completes_bind.mpr ⟨_, _, query,
        completes_bind.mpr ⟨(), _, freed _, rfl, rfl⟩⟩⟩

/-- A node can answer with any transaction that its answer is read as. -/
theorem provides_transaction {client : Nat} {signature address body : String}
    {confirmed : ConfirmedTransaction}
    (found : NodeRpc.endpoint (configuration.nodeUrl client) = .ok address)
    (told : (NodeAnswer.parse body).read "struct EncodedConfirmedTransactionWithStatusMeta"
      ConfirmedTransaction.ofJson? (fun refusal => .rpcClient refusal.message) = .ok confirmed) :
    configuration.Provides session ⟨.node client (.transaction signature), some (.ok confirmed)⟩
      session := by
  have once : (NodeRpc.call (configuration.nodeUrl client) configuration.commitment
      (.transaction signature)).Completes DatabaseSession.Serves session (.ok confirmed)
        session := by
    refine completes_bind.mpr ⟨.parse body, session, ?_, told.symm, rfl⟩
    rw [NodeRpc.ask, found]
    exact ⟨.answered 200 none body, session, .elsewhere nofun nofun, rfl, rfl⟩
  rcases once.hasRun with ⟨calls, run⟩
  have made : (configuration.provide (.node client (.transaction signature))).HasRun
      DatabaseSession.Serves session (calls ++ []) (.ok confirmed) session :=
    run.retrying.bind hasRun_pure
  exact .answered made.reaches made.leads

section Runs

variable {Result Other : Type}

variable (configuration) in
/-- Whether something holds in the end of a program whose services are provided over a database, of
the session and of the calls that were made. -/
abbrev Recounts (ends : Result → DatabaseSession → List (AnsweredCall Services) → Prop)
    (program : Program Services Result) (session : DatabaseSession) : Prop :=
  program.Recounts configuration.Provides (fun _ => True) ends session

theorem recounts_call (call : ServiceCall)
    {ends : call.Answer → DatabaseSession → List (AnsweredCall Services) → Prop}
    (answered : ∀ answer last, configuration.Provides session ⟨call, some answer⟩ last →
      ends answer last [⟨call, some answer⟩]) :
    configuration.Recounts ends (@Program.call Services call) session :=
  fun answer last provided => ⟨trivial, answered answer last provided⟩

/-- A program that spares the stored swaps leaves them as they are, whatever it is answered, as none
of its requests can change them. -/
theorem recounts_sparing {program : Program Services Result}
    {ends : Result → DatabaseSession → List (AnsweredCall Services) → Prop}
    (silent : program.Silent (.except ServiceCall.sparing))
    (ended : ∀ result last calls, last.tables.swaps = session.tables.swaps →
      (∀ answered ∈ calls, ServiceCall.sparing answered.call = true) → ends result last calls) :
    configuration.Recounts ends program session := by
  have spared : configuration.Recounts
      (fun _ last _ => last.tables.swaps = session.tables.swaps) program session := by
    clear ended
    induction program generalizing session with
    | done result => exact rfl
    | ask request resume ih =>
        intro answer next answers
        have same : next.tables.swaps = session.tables.swaps := by
          cases seen : request.answeredCall? answer with
          | none =>
              rw [seen] at answers
              rw [show next = session from answers]
          | some answered =>
              rw [seen] at answers
              have called := Request.call?_of_answeredCall? seen
              apply Provides.spares answers
              simpa [Discipline.except] using silent.1 _ called none
        refine ⟨trivial, (ih answer (silent.2 answer)).mono ?_⟩
        intro result last calls later
        exact later.trans same
  refine (spared.limited silent).mono ?_
  rintro result last calls ⟨same, limited⟩
  exact ended result last calls same limited

theorem recounts_sparing_bind {program : Program Services Result}
    {next : Result → Program Services Other}
    {ends : Other → DatabaseSession → List (AnsweredCall Services) → Prop}
    (silent : program.Silent (.except ServiceCall.sparing))
    (later : ∀ result middle calls, middle.tables.swaps = session.tables.swaps →
      (∀ answered ∈ calls, ServiceCall.sparing answered.call = true) →
      configuration.Recounts (fun outcome last more => ends outcome last (calls ++ more))
        (next result) middle) :
    configuration.Recounts ends (program >>= next) session :=
  .bind (recounts_sparing silent later)

/-- What spares the swaps can come before anything else, and be given up, without a change to their
rows. -/
theorem recounts_sparing_unlessStopped_bind {program : Program Services Result}
    {next : Result → Program Services Other}
    {ends : Option Other → DatabaseSession → List (AnsweredCall Services) → Prop}
    (silent : program.Silent (.except ServiceCall.sparing))
    (stopped : ∀ last calls, last.tables.swaps = session.tables.swaps →
      (∀ answered ∈ calls, ServiceCall.sparing answered.call = true) → ends none last calls)
    (later : ∀ result middle calls, middle.tables.swaps = session.tables.swaps →
      (∀ answered ∈ calls, ServiceCall.sparing answered.call = true) →
      configuration.Recounts (fun outcome last more => ends outcome last (calls ++ more))
        (next result).unlessStopped middle) :
    configuration.Recounts ends (program >>= next).unlessStopped session := by
  rw [Program.unlessStopped_bind]
  refine recounts_sparing_bind silent.unlessStopped ?_
  rintro (_ | result) middle calls same spared
  · exact Program.recounts_pure (by simpa using stopped middle calls same spared)
  · exact later result middle calls same spared

end Runs

def oneNode : Configuration :=
  ⟨["http://node"], "ws://node", "", .confirmed, .standard, .node, .reconnect, .insert, .standard,
    .standard, .standard⟩

end Configuration

end SwapLedger
