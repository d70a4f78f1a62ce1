import SwapLedger.Proofs.CallLimits

/-!
# What a worker does with a delivery

A worker is free, or holds a delivery whose swaps have not been stored, or has stored them, or has
acknowledged them and still has to announce them. What it may do depends on nothing else, and all of
its programs keep to it: whatever is answered and wherever it is told to stop, a worker that holds a
delivery goes on to settle it.
-/

namespace SwapLedger

/-- What a worker does that others can tell. -/
inductive WorkerEvent where
  | took (delivery : Delivery)
  /-- Asked the store to remove the swaps of a transaction. -/
  | cleared (signature : String)
  /-- Asked the store to keep swaps, and was told of its success or failure; of neither if the
  worker was told to stop, before or meanwhile, and gave the attempt up. -/
  | inserted (swaps : List SwapRecord) (outcome : Option (Except Failure Unit))
  | settled (tag : Nat) (settlement : Settlement)
  | broadcast (swaps : List SwapRecord)
  /-- Was told to stop at a moment when it had called nothing that others can tell. -/
  | stopped

namespace WorkerEvent

/-- What a call is to others. -/
def of? : AnsweredCall Services → Option WorkerEvent
  | ⟨.queue .consume, some (.ok (some delivery))⟩ => some (.took delivery)
  | ⟨.queue (.acknowledge tag), _⟩ => some (.settled tag .acknowledged)
  | ⟨.queue (.reject tag requeue), _⟩ =>
    some (.settled tag (if requeue then .requeued else .rejected))
  | ⟨.store (.deleteSwaps signature), _⟩ => some (.cleared signature)
  | ⟨.store (.insertSwaps swaps), outcome⟩ => some (.inserted swaps outcome)
  | ⟨.shared (.broadcast swaps), _⟩ => some (.broadcast swaps)
  | _ => none

end WorkerEvent

/-- What a worker has in hand. -/
inductive Custody where
  | free
  /-- A delivery, and so many attempts to store its swaps. -/
  | holding (delivery : Delivery) (attempts : Nat)
  /-- A delivery whose swaps are stored. -/
  | stored (delivery : Delivery)
  /-- A delivery that was acknowledged and is still to be announced. -/
  | announcing (delivery : Delivery)

/-- What a worker that holds a delivery has in hand after another attempt to store its swaps. -/
def Custody.afterInsert (delivery : Delivery) (attempts : Nat) :
    Option (Except Failure Unit) → Custody
  | some (.ok ()) => .stored delivery
  | none | some (.error _) => .holding delivery (attempts + 1)

namespace Worker

variable (worker : Worker)

/-- The swaps of a delivery that can be read. -/
def swaps? (delivery : Delivery) : Option (List SwapRecord) :=
  (WorkItem.ofPayload? delivery.payload).map (·.swaps worker.registry)

/-- Whether a delivery is read as one with a transaction of this signature. -/
def mentions (delivery : Delivery) (signature : String) : Bool :=
  (WorkItem.ofPayload? delivery.payload).any (·.signatures.contains signature)

/-- How a delivery is settled if nothing is stored for it. -/
def settlementUnstored (delivery : Delivery) : Settlement :=
  match worker.swaps? delivery with
  | none => .rejected
  | some [] => .acknowledged
  | some (_ :: _) => .requeued

/-- What a worker may do, and what it has in hand afterwards. -/
inductive Advances : Custody → WorkerEvent → Custody → Prop where
  | took {delivery : Delivery} : Advances .free (.took delivery) (.holding delivery 0)
  | cleared {delivery : Delivery} {signature : String} (redelivered : delivery.redelivered = true)
      (mentioned : mentions delivery signature = true) :
      Advances (.holding delivery 0) (.cleared signature) (.holding delivery 0)
  | inserted {delivery : Delivery} {attempts : Nat} {swaps : List SwapRecord}
      (swaps_ne : swaps ≠ []) (found : worker.swaps? delivery = some swaps)
      (enough : attempts < worker.insertRetry.maxAttempts)
      (outcome : Option (Except Failure Unit)) :
      Advances (.holding delivery attempts) (.inserted swaps outcome)
        (.afterInsert delivery attempts outcome)
  | settled {delivery : Delivery} {attempts : Nat} {settlement : Settlement}
      (chosen : settlement = worker.settlementUnstored delivery) :
      Advances (.holding delivery attempts) (.settled delivery.tag settlement) .free
  | acknowledged {delivery : Delivery} :
      Advances (.stored delivery) (.settled delivery.tag .acknowledged) (.announcing delivery)
  | announced {delivery : Delivery} {swaps : List SwapRecord}
      (found : worker.swaps? delivery = some swaps) :
      Advances (.announcing delivery) (.broadcast swaps) .free

/-- The discipline of workers. -/
def custody : Discipline Services WorkerEvent Custody := ⟨WorkerEvent.of?, worker.Advances⟩

variable {worker} {delivery : Delivery} {stage : Custody}

/-- Settling passes to where the settlement leads. -/
theorem keeps_settle {tag : Nat} {settlement : Settlement} {ends : Settlement → Custody → Prop}
    {next : Custody} (allowed : worker.Advances stage (.settled tag settlement) next)
    (ended : ends settlement next) :
    (worker.settle tag settlement).Keeps worker.custody ends stage := by
  cases settlement with
  | acknowledged | rejected | requeued =>
      intro answer
      refine ⟨next, allowed, ?_⟩
      cases answer with
      | ok _ => exact Program.keeps_pure ended
      | error failure =>
          exact (Program.silent_request rfl).keeps_bind fun _ => Program.keeps_pure ended

/-- Clearing the rows of a delivery that came again keeps it in hand, each signature being one that
it mentions. -/
theorem keeps_clear {signatures : List String} {ends : Unit → Custody → Prop}
    (redelivered : delivery.redelivered = true)
    (mentioned : ∀ signature ∈ signatures, mentions delivery signature = true)
    (ended : ends () (.holding delivery 0)) :
    (worker.clear signatures).Keeps worker.custody ends (.holding delivery 0) := by
  induction signatures with
  | nil => exact Program.keeps_pure ended
  | cons signature rest ih =>
      have later := ih fun other member => mentioned other (List.mem_cons_of_mem _ member)
      intro answer
      refine ⟨_, .cleared redelivered (mentioned signature List.mem_cons_self), ?_⟩
      cases answer with
      | ok _ => exact later
      | error failure => exact (Program.silent_request rfl).keeps_bind fun _ => later

theorem silent_addLookups (addresses : List Address) :
    (addLookups addresses).Silent worker.custody := by
  induction addresses with
  | nil => exact Program.silent_pure
  | cons address rest ih =>
      refine (Program.silent_call fun _ => rfl).bind fun lost => ?_
      cases lost with
      | false => exact ih
      | true => exact (Program.silent_request rfl).bind fun _ => ih

/-- One attempt to store swaps. The delivery stays in hand unless the store says that it has
them. -/
theorem keeps_insertSwaps {swaps : List SwapRecord} {attempts : Nat}
    {ends : Option (Except Failure Unit) → Custody → Prop} (swaps_ne : swaps ≠ [])
    (found : worker.swaps? delivery = some swaps)
    (enough : attempts < worker.insertRetry.maxAttempts)
    (stored : ends (some (.ok ())) (.stored delivery))
    (unstored : ∀ outcome, outcome ≠ some (.ok ()) →
      ends outcome (.holding delivery (attempts + 1))) :
    (Services.store (.insertSwaps swaps)).unlessStopped.Keeps worker.custody ends
      (.holding delivery attempts) := by
  rw [Services.store, Program.unlessStopped]
  intro answer
  rcases answer with _ | failure | ⟨⟩
  · exact ⟨_, .inserted swaps_ne found enough none, unstored none (by simp)⟩
  · exact ⟨_, .inserted swaps_ne found enough _, unstored (some (.error failure)) (by simp)⟩
  · exact ⟨_, .inserted swaps_ne found enough (some (.ok ())), stored⟩

/-- Attempts to insert keep the discipline: one that succeeds stores the swaps, and one that fails
or is given up leaves the delivery in hand. -/
theorem keeps_retryingFrom {policy : RetryPolicy} {operation : String} {swaps : List SwapRecord}
    {ends : Option (Except Failure Unit) → Custody → Prop} (swaps_ne : swaps ≠ [])
    (found : worker.swaps? delivery = some swaps)
    (stored : ends (some (.ok ())) (.stored delivery))
    (unstored : ∀ outcome attempts, outcome ≠ some (.ok ()) →
      ends outcome (.holding delivery attempts))
    (retriesLeft number attempts : Nat)
    (enough : attempts + retriesLeft < worker.insertRetry.maxAttempts) :
    (policy.retryingFrom operation (Services.store (.insertSwaps swaps)) retriesLeft
      number).unlessStopped.Keeps worker.custody ends (.holding delivery attempts) := by
  have failed (attempts : Nat) (failure : Failure) :
      (pure (.error failure) : Program Services (Except Failure Unit)).unlessStopped.Keeps
        worker.custody ends (.holding delivery attempts) :=
    Program.keeps_unlessStopped_pure (unstored _ attempts (by simp))
  induction retriesLeft using Nat.strongRecOn generalizing number attempts with
  | ind retriesLeft ih =>
      rw [RetryPolicy.retryingFrom.eq_def, Program.unlessStopped_bind]
      apply Program.Keeps.bind
      apply keeps_insertSwaps swaps_ne found (by omega)
      · exact stored
      · intro outcome missed
        rcases outcome with _ | failure | ⟨⟩
        · exact unstored none _ missed
        · by_cases transient : failure.isTransient = false
          · simpa only [transient, if_true] using failed _ failure
          · simp only [transient, Bool.true_eq_false, if_false]
            cases retriesLeft with
            | zero => exact failed _ (.retryExhausted number failure.message)
            | succ retriesLeft =>
                have stopped := unstored none (attempts + 1) (by simp)
                refine (Program.silent_request rfl).keeps_unlessStopped_bind stopped fun phase => ?_
                refine (Program.silent_request rfl).keeps_unlessStopped_bind stopped fun _ => ?_
                refine (Program.silent_request rfl).keeps_unlessStopped_bind stopped fun _ => ?_
                exact ih retriesLeft (by omega) (number + 1) (attempts + 1) (by omega)
        · exact absurd rfl missed

theorem keeps_insert {swaps : List SwapRecord}
    {ends : Option (Except Failure Unit) → Custody → Prop} (swaps_ne : swaps ≠ [])
    (found : worker.swaps? delivery = some swaps)
    (stored : ends (some (.ok ())) (.stored delivery))
    (unstored : ∀ outcome attempts, outcome ≠ some (.ok ()) →
      ends outcome (.holding delivery attempts)) :
    (worker.insert swaps).unlessStopped.Keeps worker.custody ends (.holding delivery 0) := by
  rw [insert, Program.unlessStopped_bind]
  apply Program.Keeps.bind
  apply keeps_retryingFrom swaps_ne found
  · exact stored
  · intro outcome attempts missed
    rcases outcome with _ | failure | ⟨⟩
    · exact unstored none attempts (by simp)
    · exact Program.keeps_unlessStopped_pure (unstored _ attempts nofun)
    · exact absurd rfl missed
  · rw [Nat.zero_add]
    exact Nat.lt_succ_self _

/-- Handling a readable item ends with nothing in hand. -/
theorem keeps_handleItem {item : WorkItem} {ends : Settlement → Custody → Prop}
    (readable : WorkItem.ofPayload? delivery.payload = some item)
    (ended : ∀ settlement, ends settlement .free) :
    (worker.handleItem delivery.tag delivery.redelivered item).Keeps worker.custody ends
      (.holding delivery 0) := by
  have found : worker.swaps? delivery = some (item.swaps worker.registry) := by
    rw [swaps?, readable]
    rfl
  rw [handleItem]
  refine (Program.silent_request rfl).keeps_bind fun started => ?_
  refine Program.keeps_when (fun redelivered => ?_) ?_
  · refine keeps_clear redelivered ?_ rfl
    intro signature member
    rw [mentions, readable]
    simpa using member
  refine Program.silent_reportAll.keeps_bind fun _ => ?_
  refine (silent_addLookups _).keeps_bind fun _ => ?_
  cases swaps : item.swaps worker.registry with
  | nil =>
      rw [swaps] at found
      have nothingStored : .acknowledged = worker.settlementUnstored delivery := by
        rw [settlementUnstored, found]
      simp only [List.isEmpty_nil, if_true, Bool.true_eq_false, if_false]
      refine .bind (keeps_settle (.settled nothingStored) ?_)
      refine (Program.silent_request rfl).keeps_bind fun finished => ?_
      exact (Program.silent_request rfl).keeps_bind fun _ => Program.keeps_pure (ended _)
  | cons first rest =>
      rw [swaps] at found
      have handedBack : .requeued = worker.settlementUnstored delivery := by
        rw [settlementUnstored, found]
      simp only [List.isEmpty_cons, Bool.false_eq_true, if_false, if_true]
      refine .bind (keeps_insert (List.cons_ne_nil _ _) found ?_ ?_)
      · refine .bind (keeps_settle .acknowledged ?_)
        refine .bind fun answer => ⟨.free, .announced found, ?_⟩
        refine (Program.silent_request rfl).keeps_bind fun finished => ?_
        exact (Program.silent_request rfl).keeps_bind fun _ => Program.keeps_pure (ended _)
      · intro outcome attempts missed
        rcases outcome with _ | failure | ⟨⟩
        · exact keeps_settle (.settled handedBack) (ended _)
        · exact (Program.silent_request rfl).keeps_bind fun _ =>
            keeps_settle (.settled handedBack) (ended _)
        · exact absurd rfl missed

/-- Handling any delivery ends with nothing in hand. -/
theorem keeps_handle {ends : Settlement → Custody → Prop}
    (ended : ∀ settlement, ends settlement .free) :
    (worker.handle delivery).Keeps worker.custody ends (.holding delivery 0) := by
  rw [handle]
  cases readable : WorkItem.ofPayload? delivery.payload with
  | some item => exact keeps_handleItem readable ended
  | none =>
      have unreadable : .rejected = worker.settlementUnstored delivery := by
        rw [settlementUnstored, swaps?, readable]
        rfl
      exact (Program.silent_request rfl).keeps_bind fun _ =>
        keeps_settle (.settled unreadable) (ended _)

/-- Nothing that is done to restore the connection concerns others. -/
theorem silent_reconnect (reason : String) :
    (worker.reconnect reason).Silent worker.custody := by
  apply (reconnect_reconnecting reason).of_except
  intro call answer made
  unfold reconnecting at made
  split at made
  · rfl
  · rfl
  · rfl
  · cases made

/-- A turn ends with nothing in hand. -/
theorem keeps_step {ends : Bool → Custody → Prop} (ended : ∀ goesOn, ends goesOn .free) :
    worker.step.Keeps worker.custody ends .free := by
  have pausing (entry : LogEntry) : (do
      Program.report entry
      return (← (Program.pause consumePauseMs).unlessStopped).isSome).Silent worker.custody := by
    refine (Program.silent_request rfl).bind fun _ => ?_
    exact (Program.silent_request rfl).unlessStopped.bind fun _ => Program.silent_pure
  rw [step]
  refine (Program.silent_request rfl).keeps_bind fun stopped => ?_
  cases stopped with
  | true => exact Program.keeps_pure (ended _)
  | false =>
      apply Program.Keeps.bind
      intro answer
      rcases answer with failure | _ | delivery
      · refine ⟨.free, rfl, ?_⟩
        cases failure with
        | queueClosed reason => exact (silent_reconnect reason).keeps ended
        | _ => exact (pausing _).keeps ended
      · exact ⟨.free, rfl, Program.keeps_pure (ended _)⟩
      · exact ⟨_, .took, .bind (keeps_handle fun _ => Program.keeps_pure (ended _))⟩

/-- Between two turns a worker is free. -/
theorem keeps_turn {started : Bool} {ends : Option Job → Custody → Prop}
    (ended : ∀ next, ends next .free) :
    (worker.turn started).Keeps worker.custody ends .free := by
  rw [turn]
  refine Program.keeps_when (fun _ => (Program.silent_request rfl).keeps fun _ => rfl) ?_
  refine .bind (keeps_step fun goesOn => ?_)
  cases goesOn with
  | true => exact Program.keeps_pure (ended _)
  | false =>
      refine (Program.silent_request rfl).keeps_bind fun _ => ?_
      exact (Program.silent_call fun _ => rfl).keeps_bind fun _ => Program.keeps_pure (ended _)

end Worker

end SwapLedger
