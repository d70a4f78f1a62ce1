import SwapLedger.Credits
import SwapLedger.Proofs.Servants
import SwapLedger.TableQueue

/-!
# Credits of a queue in the database

Any number of calls of a queue in the database go on side by side. Their requests are answered one
at a time and in any order, with whatever the database makes of them, and a call may be dropped.
Whoever takes a delivery settles it once at most, and nothing else is settled. Then the count of
credits is right at every moment: there is one for every claim that is pending and one for every
delivery that has been handed out and not been settled. So nothing is ever taken away from zero, and
no credit is reserved while the limit is reached.
-/

namespace SwapLedger

namespace QueueCall

/-- Whether a call takes deliveries. -/
def takes : QueueCall → Bool
  | .consume => true
  | _ => false

/-- The tag of the delivery that a call settles. -/
def settles? : QueueCall → Option Nat
  | .acknowledge tag | .reject tag _ => some tag
  | _ => none

/-- The delivery that a call hands out with its answer. -/
def handsOut? : (call : QueueCall) → call.Answer → Option Delivery
  | .consume, .ok (some delivery) => some delivery
  | _, _ => none

end QueueCall

namespace WireCall

/-- Whether a call returns a credit. -/
def returnsCredit : WireCall → Bool
  | .credits (.cancel _) | .credits (.refund _) => true
  | _ => false

/-- What is called under a credit: the database, and then what returns the credit. -/
def underCredit : WireCall → Bool
  | .database _ => true
  | call => call.returnsCredit

end WireCall

/-- A call of a queue, and what is left of its program. -/
structure QueueErrand where
  call : QueueCall
  program : Program Wire call.Answer

namespace QueueErrand

variable (errand : QueueErrand)

/-- The call that is made next. -/
def next? : Option WireCall :=
  match errand.program with
  | .done _ => none
  | .ask request _ => request.call?

/-- The delivery that the call has handed out, as long as the caller has not taken it. -/
def delivery? : Option Delivery :=
  match errand.program with
  | .done answer => errand.call.handsOut? answer
  | .ask _ _ => none

/-- Whether a credit has been reserved for a claim that is pending. -/
def claims : Bool := errand.call.takes && errand.next?.any WireCall.underCredit

/-- Whether a delivery is being settled. -/
def settles : Bool := errand.call.settles?.isSome && errand.next?.any WireCall.underCredit

/-- Whether a credit stands for what the call deals with. -/
def bears : Bool := errand.claims || errand.settles || errand.delivery?.isSome

end QueueErrand

/-- The calls of a queue that go on, and the deliveries that are in somebody's hands. -/
structure CreditScene where
  credits : Credits
  errands : List QueueErrand
  /-- What has been taken and nobody has begun to settle. -/
  deliveries : List Delivery

namespace CreditScene

/-- How the calls of an errand are answered from the credits of a queue. Everything else is answered
somehow. -/
inductive Serves (queue : Nat) : Servant Wire Credits where
  | counted {credits : Credits} {call : CreditCall} (own : call.queue = queue) :
      Serves queue credits ⟨.credits call, some (credits.serve call).1⟩ (credits.serve call).2
  | elsewhere {credits : Credits} {call : WireCall} {answer : Option call.Answer}
      (foreign : ∀ own, call = .credits own → own.queue ≠ queue) :
      Serves queue credits ⟨call, answer⟩ credits

/-- One thing that happens. -/
inductive Step (queue : TableQueue) : CreditScene → CreditScene → Prop where
  | call {scene : CreditScene} {call : QueueCall} (settlesNothing : call.settles? = none) :
      Step queue scene { scene with errands := ⟨call, queue.serve call⟩ :: scene.errands }
  /-- Somebody begins to settle a delivery that is in its hands. -/
  | settle {credits : Credits} {errands : List QueueErrand} {before after : List Delivery}
      {delivery : Delivery} {call : QueueCall} (own : call.settles? = some delivery.tag) :
      Step queue ⟨credits, errands, before ++ delivery :: after⟩
        ⟨credits, ⟨call, queue.serve call⟩ :: errands, before ++ after⟩
  | ask {credits next : Credits} {before after : List QueueErrand} {deliveries : List Delivery}
      {call : QueueCall} {request : Request Wire}
      {resume : request.Answer → Program Wire call.Answer} (answer : request.Answer)
      (answers : (Serves queue.number).Answers credits (request.answeredCall? answer) next) :
      Step queue ⟨credits, before ++ ⟨call, .ask request resume⟩ :: after, deliveries⟩
        ⟨next, before ++ ⟨call, resume answer⟩ :: after, deliveries⟩
  /-- The caller takes what it is answered. -/
  | finish {credits : Credits} {before after : List QueueErrand} {deliveries : List Delivery}
      {call : QueueCall} {answer : call.Answer} :
      Step queue ⟨credits, before ++ ⟨call, .done answer⟩ :: after, deliveries⟩
        ⟨credits, before ++ after, deliveries ++ (call.handsOut? answer).toList⟩
  /-- A call is dropped for which there is no credit. -/
  | drop {credits : Credits} {before after : List QueueErrand} {deliveries : List Delivery}
      {errand : QueueErrand} (free : errand.bears = false) :
      Step queue ⟨credits, before ++ errand :: after, deliveries⟩
        ⟨credits, before ++ after, deliveries⟩
  /-- A delivery is left unsettled by somebody who had begun to settle it. -/
  | leave {credits : Credits} {before after : List QueueErrand} {deliveries : List Delivery}
      {errand : QueueErrand} {delivery : Delivery} (unsettled : errand.settles = true)
      (own : errand.call.settles? = some delivery.tag) :
      Step queue ⟨credits, before ++ errand :: after, deliveries⟩
        ⟨credits, before ++ after, deliveries ++ [delivery]⟩

/-- What can come about when no call has been made yet. -/
inductive Reachable (queue : TableQueue) : CreditScene → Prop where
  | initial (limit : UInt16) : Reachable queue ⟨⟨limit, 0⟩, [], []⟩
  | step {before after : CreditScene} (reachable : Reachable queue before)
      (step : Step queue before after) : Reachable queue after

variable (scene : CreditScene)

/-- How many reservations have a claim that is pending. -/
def pendingClaims : Nat := scene.errands.countP (·.claims)

/-- How many deliveries have been handed out and not been settled. -/
def unsettled : Nat :=
  scene.deliveries.length + scene.errands.countP (·.delivery?.isSome) +
    scene.errands.countP (·.settles)

end CreditScene

/-! ## How calls deal with their credits -/

namespace QueueCall

/-- Whether a call deals with a delivery. -/
def concerned (call : QueueCall) : Bool := call.takes || call.settles?.isSome

end QueueCall

/-- Whether there is a credit after something was called. -/
def AnsweredCall.leavesCredit (bears : Bool) : Option (AnsweredCall Wire) → Bool
  | some ⟨.credits (.reserve _), some true⟩ => true
  | some ⟨.credits (.cancel _), some ()⟩ | some ⟨.credits (.refund _), some ()⟩ => false
  | _ => bears

namespace Program

variable {Result Other : Type} {queue : TableQueue} {concerned bears : Bool}

/-- Whether a program of a queue keeps a credit as long as it is concerned with a delivery and the
database is still to be asked, gives the credit back next, and never gives back what it has not. -/
def Minds (queue : TableQueue) (concerned : Bool) (ends : Result → Bool → Prop) :
    Program Wire Result → Bool → Prop
  | .done result, bears => ends result bears
  | .ask request resume, bears =>
    bears = (concerned && request.call?.any WireCall.underCredit) ∧
      (request.call?.any WireCall.returnsCredit = true → concerned = true) ∧
      (∀ call, request.call? = some (.credits call) → call.queue = queue.number) ∧
      ∀ answer, (resume answer).Minds queue concerned ends
        (AnsweredCall.leavesCredit bears (request.answeredCall? answer))

theorem minds_pure {ends : Result → Bool → Prop} {result : Result} (ended : ends result bears) :
    (pure result : Program Wire Result).Minds queue concerned ends bears := ended

theorem Minds.bind {ends : Other → Bool → Prop} {program : Program Wire Result}
    {next : Result → Program Wire Other}
    (minds : program.Minds queue concerned
      (fun result => (next result).Minds queue concerned ends) bears) :
    (program >>= next).Minds queue concerned ends bears := by
  induction program generalizing bears with
  | done result => exact minds
  | ask request resume ih =>
      rcases minds with ⟨matched, returned, own, later⟩
      exact ⟨matched, returned, own, fun answer => ih answer (later answer)⟩

theorem minds_request {ends : Other → Bool → Prop} {request : Request Wire}
    {next : request.Answer → Program Wire Other} (callsNothing : request.call? = none)
    (later : ∀ answer, (next answer).Minds queue concerned ends false) :
    (Program.request request >>= next).Minds queue concerned ends false := by
  refine ⟨by simp [callsNothing], by simp [callsNothing], by simp [callsNothing], ?_⟩
  intro answer
  have unseen : request.answeredCall? answer = none := by
    cases seen : request.answeredCall? answer with
    | none => rfl
    | some answered =>
        rw [Request.call?_of_answeredCall? seen] at callsNothing
        cases callsNothing
  rw [unseen]
  exact later answer

/-- The database is asked under a credit by those who are concerned with a delivery. -/
theorem minds_database {call : DatabaseCall} {next : call.Answer → Program Wire Other}
    {ends : Other → Bool → Prop}
    (later : ∀ answer, (next answer).Minds queue concerned ends concerned) :
    (Wire.database call >>= next).Minds queue concerned ends concerned :=
  ⟨(Bool.and_true _).symm, nofun, nofun, later⟩

theorem minds_unlessStopped_database {call : DatabaseCall}
    {next : call.Answer → Program Wire Other} {ends : Option Other → Bool → Prop}
    (stopped : ends none concerned)
    (later : ∀ answer, (next answer).unlessStopped.Minds queue concerned ends concerned) :
    (Wire.database call >>= next).unlessStopped.Minds queue concerned ends concerned := by
  rw [unlessStopped_bind, Wire.database, Program.unlessStopped]
  refine ⟨(Bool.and_true _).symm, ?_, ?_, ?_⟩
  · rintro ⟨⟩
  · rintro _ ⟨⟩
  rintro (_ | answer)
  · exact stopped
  · exact later answer

theorem minds_query {statement : Statement}
    {ends : Except DatabaseFailure statement.Answer → Bool → Prop}
    (ended : ∀ outcome, ends outcome concerned) :
    (SwapStore.query statement).Minds queue concerned ends concerned := by
  refine minds_database ?_
  rintro (failure | ⟨⟩)
  · exact minds_pure (ended _)
  · exact minds_database fun outcome => minds_database fun _ => minds_pure (ended outcome)

theorem minds_query_bind {statement : Statement}
    {next : Except DatabaseFailure statement.Answer → Program Wire Other}
    {ends : Other → Bool → Prop}
    (failed : ∀ failure, (next (.error failure)).Minds queue concerned ends concerned)
    (answered : ∀ answer, (next (.ok answer)).Minds queue concerned ends concerned) :
    (SwapStore.query statement >>= next).Minds queue concerned ends concerned := by
  refine .bind (minds_query ?_)
  rintro (failure | answer)
  · exact failed failure
  · exact answered answer

theorem minds_unlessStopped_query {statement : Statement}
    {ends : Option (Except DatabaseFailure statement.Answer) → Bool → Prop}
    (ended : ∀ outcome, ends outcome concerned) :
    (SwapStore.query statement).unlessStopped.Minds queue concerned ends concerned := by
  refine minds_unlessStopped_database (ended none) ?_
  rintro (failure | ⟨⟩)
  · exact ended (some _)
  · refine minds_unlessStopped_database (ended none) fun outcome => ?_
    exact minds_unlessStopped_database (ended none) fun _ => ended (some outcome)

end Program

namespace TableQueue

open Program

variable {queue : TableQueue}

/-- How a call ends that has a credit just for what it hands out. -/
def PaysFor (call : QueueCall) (answer : call.Answer) (bears : Bool) : Prop :=
  bears = (call.handsOut? answer).isSome

theorem minds_reserve {Other : Type} {next : Bool → Program Wire Other}
    {ends : Other → Bool → Prop} (granted : (next true).Minds queue true ends true)
    (refused : (next false).Minds queue true ends false) :
    (Wire.credits (.reserve queue.number) >>= next).Minds queue true ends false := by
  refine ⟨rfl, nofun, ?_, ?_⟩
  · rintro call ⟨⟩
    rfl
  · rintro (_ | _)
    · exact refused
    · exact granted

theorem minds_return {Other : Type} {call : CreditCall} {next : call.Answer → Program Wire Other}
    {ends : Other → Bool → Prop} (returns : (WireCall.credits call).returnsCredit = true)
    (own : call.queue = queue.number)
    (later : ∀ answer, (next answer).Minds queue true ends false) :
    (Wire.credits call >>= next).Minds queue true ends true := by
  have owned : ∀ other, some (WireCall.credits call) = some (.credits other) →
      other.queue = queue.number := by
    rintro other ⟨⟩
    exact own
  cases call with
  | reserve | setLimit => cases returns
  | cancel number => exact ⟨rfl, fun _ => rfl, owned, later⟩
  | refund number => exact ⟨rfl, fun _ => rfl, owned, later⟩

theorem minds_rest : queue.rest.Minds queue true (PaysFor .consume) false := by
  rw [rest, Program.pause, Program.request, Program.unlessStopped]
  refine ⟨rfl, ?_, ?_, ?_⟩
  · rintro ⟨⟩
  · rintro _ ⟨⟩
  rintro (_ | _)
  · exact minds_pure rfl
  · exact minds_pure rfl

/-- A claim is made under a credit, which is given back unless a delivery is handed out. -/
theorem minds_consume : queue.consume.Minds queue true (PaysFor .consume) false := by
  refine minds_reserve (.bind (minds_unlessStopped_query ?_)) minds_rest
  rintro (_ | failure | _ | row)
  · exact minds_return rfl rfl fun _ => minds_pure rfl
  · exact minds_return rfl rfl fun _ => minds_pure rfl
  · exact minds_return rfl rfl fun _ => minds_rest
  · exact minds_pure rfl

/-- A delivery is settled under its credit, which is given back whatever the database answers. -/
theorem minds_settle {statement : Statement} {ends : Except Failure Unit → Bool → Prop}
    (ended : ∀ outcome, ends outcome false) :
    (queue.settle statement).Minds queue true ends true := by
  refine minds_query_bind ?_ ?_
  · exact fun failure => minds_return rfl rfl fun _ => minds_pure (ended _)
  · exact fun answer => minds_return rfl rfl fun _ => minds_pure (ended _)

/-- A call is mindful of the credit that it bears: what is reported of a lost connection comes after
the credit has been given back. -/
theorem minds_serve (call : QueueCall) :
    (queue.serve call).Minds queue call.concerned (PaysFor call) call.settles?.isSome := by
  cases call with
  | createTables =>
      refine .bind (minds_query_bind (fun _ => minds_pure (minds_pure rfl)) fun _ => ?_)
      exact minds_query_bind (fun _ => minds_pure (minds_pure rfl)) fun _ =>
        minds_pure (minds_pure rfl)
  | publish item => exact minds_query_bind (fun _ => minds_pure rfl) fun _ => minds_pure rfl
  | consume => exact minds_consume
  | acknowledge tag => exact minds_settle fun _ => rfl
  | reject tag requeue =>
      rw [serve, reject]
      cases requeue with
      | true => exact minds_settle fun _ => rfl
      | false =>
        refine .bind (minds_settle ?_)
        rintro (failure | ⟨⟩)
        · exact minds_pure rfl
        · exact minds_request rfl fun _ => minds_pure rfl
  | depth => exact minds_query_bind (fun _ => minds_pure rfl) fun _ => minds_pure rfl
  | setPrefetch limit =>
      refine ⟨rfl, nofun, ?_, fun _ => minds_pure rfl⟩
      rintro call ⟨⟩
      rfl
  | reconnect => exact minds_query_bind (fun _ => minds_pure rfl) fun _ => minds_pure rfl

end TableQueue

/-! ## One credit for each -/

theorem Credits.serve_reserve (credits : Credits) (number : Nat) :
    credits.serve (.reserve number) = (credits.allowsMore,
      if credits.allowsMore then { credits with held := credits.held + 1 } else credits) := by
  rw [serve]
  cases credits.allowsMore with
  | true => rfl
  | false => rfl

namespace QueueErrand

variable {queue : TableQueue} {errand : QueueErrand}

/-- Whether the call deals with its credit as it should. -/
def Minds (queue : TableQueue) (errand : QueueErrand) : Prop :=
  errand.program.Minds queue errand.call.concerned (TableQueue.PaysFor errand.call) errand.bears

/-- Whether there is a credit is seen from what is left of the program. -/
theorem minds_of_bears (errand : QueueErrand) {bears : Bool}
    (minds : errand.program.Minds queue errand.call.concerned
      (TableQueue.PaysFor errand.call) bears) : errand.bears = bears ∧ errand.Minds queue := by
  suffices same : errand.bears = bears by
    refine ⟨same, ?_⟩
    rwa [Minds, same]
  rcases errand with ⟨call, answer | ⟨request, resume⟩⟩
  · have ended : bears = (call.handsOut? answer).isSome := minds
    simp [QueueErrand.bears, claims, settles, next?, delivery?, ended]
  · have matched := minds.1
    simp [QueueErrand.bears, claims, settles, next?, delivery?, matched, QueueCall.concerned,
      Bool.and_or_distrib_right]

theorem minds_serve (queue : TableQueue) (call : QueueCall) :
    QueueErrand.bears ⟨call, queue.serve call⟩ = call.settles?.isSome ∧
      QueueErrand.Minds queue ⟨call, queue.serve call⟩ :=
  minds_of_bears _ (TableQueue.minds_serve call)

theorem Minds.bears_of_returnsCredit (minds : errand.Minds queue)
    (returns : errand.next?.any WireCall.returnsCredit = true) : errand.bears = true := by
  rcases errand with ⟨call, answer | ⟨request, resume⟩⟩
  · cases returns
  · rcases minds with ⟨matched, returned, _, _⟩
    have made : request.call?.any WireCall.returnsCredit = true := returns
    rw [matched, returned made, Bool.true_and]
    cases asked : request.call? with
    | none => simp [asked] at made
    | some call =>
        rw [asked] at made
        change call.returnsCredit = true at made
        rcases call with _ | (_ | _ | _ | _) | _ | _ | _ | _
        all_goals first | rfl | cases made

/-- How many credits there are for what the call deals with. -/
def share (errand : QueueErrand) : Nat := if errand.bears then 1 else 0

/-- There is a credit for one reason only. -/
theorem share_eq : errand.share = (if errand.claims then 1 else 0) +
    (if errand.settles then 1 else 0) + (if errand.delivery?.isSome then 1 else 0) := by
  rcases errand with ⟨call, answer | ⟨request, resume⟩⟩
  · cases handed : call.handsOut? answer <;>
      simp [share, bears, claims, settles, next?, delivery?, handed]
  · cases call <;> simp [share, bears, claims, settles, next?, delivery?, QueueCall.takes,
      QueueCall.settles?]

end QueueErrand

namespace CreditScene

variable {queue : TableQueue} {scene next : CreditScene}

/-- How many credits there are for calls. -/
def shares (errands : List QueueErrand) : Nat := errands.countP (·.bears)

theorem shares_eq (errands : List QueueErrand) :
    shares errands = errands.countP (·.claims) + errands.countP (·.settles) +
      errands.countP (·.delivery?.isSome) := by
  induction errands with
  | nil => rfl
  | cons errand rest ih =>
      have once := errand.share_eq
      simp only [shares, QueueErrand.share, List.countP_cons] at ih once ⊢
      omega

theorem shares_cons (errand : QueueErrand) (rest : List QueueErrand) :
    shares (errand :: rest) = shares rest + errand.share := List.countP_cons

theorem shares_middle (before after : List QueueErrand) (errand : QueueErrand) :
    shares (before ++ errand :: after) = shares (before ++ after) + errand.share := by
  simp only [shares, QueueErrand.share, List.countP_append, List.countP_cons, Nat.add_assoc]

theorem rest_subset {before after : List QueueErrand} {errand : QueueErrand} :
    before ++ after ⊆ before ++ errand :: after :=
  ((List.sublist_cons_self errand after).append_left before).subset

/-- The invariant: every call deals with its credit as it should, and there are no other credits
than those of calls and those of deliveries in somebody's hands. -/
structure Sound (queue : TableQueue) (scene : CreditScene) : Prop where
  minds : ∀ errand ∈ scene.errands, errand.Minds queue
  held_eq : scene.credits.held = scene.deliveries.length + shares scene.errands

/-- What is called changes the count as it changes the credit of the one who calls. A count of zero
stays at zero, so that it has to be known to be greater where a credit is given back. -/
theorem held_of_serves {credits later : Credits} {answered : AnsweredCall Wire} {bears : Bool}
    (reserving : ∀ number, answered.call = .credits (.reserve number) → bears = false)
    (returning : answered.call.returnsCredit = true → bears = true)
    (own : ∀ call, answered.call = .credits call → call.queue = queue.number)
    (enough : bears = true → 0 < credits.held)
    (serves : Serves queue.number credits answered later) :
    later.held + (if bears then 1 else 0 : Nat) =
      credits.held + (if AnsweredCall.leavesCredit bears (some answered) then 1 else 0 : Nat) := by
  cases serves with
  | @counted _ call _ =>
      cases call with
      | reserve number =>
          rw [reserving number rfl, Credits.serve_reserve]
          cases credits.allowsMore with
          | true => simp [AnsweredCall.leavesCredit]
          | false => simp [AnsweredCall.leavesCredit]
      | cancel number =>
          rw [returning rfl]
          simp [Credits.serve, AnsweredCall.leavesCredit]
      | refund number =>
          rw [returning rfl] at enough ⊢
          have counted : credits.held ≠ 0 := by
            have positive := enough rfl
            omega
          simp [Credits.serve, AnsweredCall.leavesCredit, counted]
      | setLimit number limit => rfl
  | @elsewhere _ call answer foreign =>
      have unseen : AnsweredCall.leavesCredit bears (some ⟨call, answer⟩) = bears := by
        cases call with
        | credits call => exact absurd (own call rfl) (foreign call rfl)
        | _ => rfl
      rw [unseen]

theorem held_of_answers {credits later : Credits} {call : QueueCall} {request : Request Wire}
    {resume : request.Answer → Program Wire call.Answer} {answer : request.Answer}
    (minds : QueueErrand.Minds queue ⟨call, .ask request resume⟩)
    (enough : QueueErrand.share ⟨call, .ask request resume⟩ ≤ credits.held)
    (answers : (Serves queue.number).Answers credits (request.answeredCall? answer) later) :
    QueueErrand.Minds queue ⟨call, resume answer⟩ ∧
      later.held + QueueErrand.share ⟨call, .ask request resume⟩ =
        credits.held + QueueErrand.share ⟨call, resume answer⟩ := by
  have returning := minds.bears_of_returnsCredit
  rcases minds with ⟨matched, _, own, resumes⟩
  rcases QueueErrand.minds_of_bears ⟨call, resume answer⟩ (resumes answer) with
    ⟨bearing, goesOn⟩
  refine ⟨goesOn, ?_⟩
  rw [QueueErrand.share, QueueErrand.share, bearing]
  rw [QueueErrand.share] at enough
  generalize QueueErrand.bears ⟨call, .ask request resume⟩ = bears at *
  cases seen : request.answeredCall? answer with
  | none =>
      rw [seen] at answers
      cases answers
      rfl
  | some answered =>
      have asked := Request.call?_of_answeredCall? seen
      rw [seen] at answers
      rw [asked] at matched own
      refine held_of_serves ?_ ?_ ?_ ?_ answers
      · intro number made
        rw [matched, Option.any_some, made]
        exact Bool.and_false _
      · intro returns
        exact returning (by simpa [QueueErrand.next?, asked] using returns)
      · intro call made
        exact own call (congrArg some made)
      · rintro rfl
        exact enough

/-- A step keeps the account of the credits. The credit of a delivery passes to the call that
settles it, and a call that gives back a credit has its share in the count. -/
theorem Sound.step (sound : Sound queue scene) (step : Step queue scene next) :
    Sound queue next := by
  rcases sound with ⟨minds, held_eq⟩
  cases step with
  | @call _ call settlesNothing =>
      rcases QueueErrand.minds_serve queue call with ⟨bears, mindful⟩
      refine ⟨List.forall_mem_cons.mpr ⟨mindful, minds⟩, ?_⟩
      have free : QueueErrand.share ⟨call, queue.serve call⟩ = 0 := by
        simp [QueueErrand.share, bears, settlesNothing]
      rw [shares_cons, free]
      exact held_eq
  | @settle credits errands before after delivery call own =>
      rcases QueueErrand.minds_serve queue call with ⟨bears, mindful⟩
      refine ⟨List.forall_mem_cons.mpr ⟨mindful, minds⟩, ?_⟩
      have borne : QueueErrand.share ⟨call, queue.serve call⟩ = 1 := by
        simp [QueueErrand.share, bears, own]
      simp only [shares_cons, borne, List.length_append, List.length_cons] at held_eq ⊢
      omega
  | @ask credits later before after deliveries call request resume answer answers =>
      dsimp only at held_eq
      rw [shares_middle] at held_eq
      have enough : QueueErrand.share ⟨call, .ask request resume⟩ ≤ credits.held := by omega
      rcases held_of_answers (minds _ (by simp)) enough answers with ⟨mindful, count⟩
      refine ⟨?_, ?_⟩
      · simp only [List.forall_mem_append, List.forall_mem_cons] at minds ⊢
        exact ⟨minds.1, mindful, minds.2.2⟩
      · dsimp only
        rw [shares_middle]
        omega
  | @finish credits before after deliveries call answer =>
      refine ⟨fun _ inside => minds _ (rest_subset inside), ?_⟩
      have handed : QueueErrand.share ⟨call, .done answer⟩ =
          (call.handsOut? answer).toList.length := by
        cases given : call.handsOut? answer <;>
          simp [QueueErrand.share_eq, QueueErrand.claims, QueueErrand.settles,
            QueueErrand.next?, QueueErrand.delivery?, given]
      dsimp only at held_eq ⊢
      rw [shares_middle, handed] at held_eq
      rw [List.length_append]
      omega
  | @drop credits before after deliveries errand free =>
      refine ⟨fun _ inside => minds _ (rest_subset inside), ?_⟩
      have unborne : errand.share = 0 := by simp [QueueErrand.share, free]
      rwa [shares_middle, unborne] at held_eq
  | @leave credits before after deliveries errand delivery unsettled own =>
      refine ⟨fun _ inside => minds _ (rest_subset inside), ?_⟩
      have borne : errand.share = 1 := by simp [QueueErrand.share, QueueErrand.bears, unsettled]
      dsimp only at held_eq ⊢
      rw [shares_middle, borne] at held_eq
      rw [List.length_append, List.length_singleton]
      omega

theorem Reachable.sound (reachable : Reachable queue scene) : Sound queue scene := by
  induction reachable with
  | initial limit => exact ⟨nofun, rfl⟩
  | step _ step ih => exact ih.step step

/-- What the credits of a queue are like at any moment. -/
structure Balanced (queue : TableQueue) (scene : CreditScene) : Prop where
  held_eq : scene.credits.held = scene.pendingClaims + scene.unsettled
  /-- Nothing is taken away from zero. -/
  enough : ∀ errand ∈ scene.errands, errand.next?.any WireCall.returnsCredit = true →
    0 < scene.credits.held
  /-- A credit is reserved if and only if there are fewer than the limit. -/
  reserves_iff : ∀ answer later,
    Serves queue.number scene.credits ⟨.credits (.reserve queue.number), some answer⟩ later →
      (answer = true ↔ scene.credits.limit = 0 ∨
        scene.pendingClaims + scene.unsettled < scene.credits.limit.toNat)

/-- However calls go on side by side, there is one credit for each pending claim and for each
delivery that was handed out and not settled. The credits of calls are those of claims, of
settlements and of deliveries on their way, and a call that gives back a credit has one that is
counted. -/
theorem credits_balanced (reachable : Reachable queue scene) : scene.Balanced queue := by
  rcases reachable.sound with ⟨minds, held_eq⟩
  have counted : scene.credits.held = scene.pendingClaims + scene.unsettled := by
    rw [held_eq, shares_eq, pendingClaims, unsettled]
    push_cast
    omega
  refine ⟨counted, ?_, ?_⟩
  · intro errand inside returns
    have borne : errand.share = 1 :=
      if_pos ((minds errand inside).bears_of_returnsCredit returns)
    rcases List.append_of_mem inside with ⟨before, after, whole⟩
    rw [whole, shares_middle, borne] at held_eq
    omega
  · intro answer later serves
    generalize asked : (⟨.credits (.reserve queue.number), some answer⟩ : AnsweredCall Wire) =
      answered at serves
    cases serves with
    | @counted _ call own =>
        injection asked with made granted
        cases made
        cases granted
        rw [Credits.serve_reserve, Credits.allowsMore, counted]
        simp only [Bool.or_eq_true, beq_iff_eq, Bool.and_eq_true, decide_eq_true_eq]
        refine or_congr_right ?_
        omega
    | elsewhere foreign =>
        injection asked with made
        exact absurd rfl (foreign _ made.symm)

section Undisturbed

open Program

variable {credits last : Credits} {errands : List QueueErrand} {deliveries : List Delivery}

/-- A call goes on to its end, and nothing else happens. -/
theorem Reachable.goesOn {call : QueueCall} {answer : call.Answer}
    {program : Program Wire call.Answer}
    (reachable : Reachable queue ⟨credits, ⟨call, program⟩ :: errands, deliveries⟩)
    (completes : program.Completes (Serves queue.number) credits answer last) :
    Reachable queue ⟨last, ⟨call, .done answer⟩ :: errands, deliveries⟩ := by
  induction program generalizing credits with
  | done result =>
      rcases completes with ⟨rfl, rfl⟩
      exact reachable
  | ask request resume ih =>
      rcases completes with ⟨outcome, middle, answers, later⟩
      exact ih outcome (reachable.step (@Step.ask _ _ _ [] _ _ _ _ _ outcome answers)) later

theorem completes_query {statement : Statement} (answer : statement.Answer) :
    (SwapStore.query statement).Completes (Serves queue.number) credits (.ok answer) credits := by
  refine completes_bind.mpr ⟨.ok (), credits, completes_request.mpr (.elsewhere nofun), ?_⟩
  refine completes_bind.mpr ⟨.ok answer, credits, completes_request.mpr (.elsewhere nofun), ?_⟩
  exact completes_bind.mpr ⟨(), credits, completes_request.mpr (.elsewhere nofun), rfl, rfl⟩

/-- A claim that is pending, and that may get any row: the first thing that is left to do is to ask
for a connection. -/
theorem Reachable.claiming (reachable : Reachable queue ⟨credits, errands, deliveries⟩)
    (room : credits.allowsMore = true) :
    ∃ program, QueueErrand.claims ⟨.consume, program⟩ = true ∧
      Reachable queue
        ⟨{ credits with held := credits.held + 1 }, ⟨.consume, program⟩ :: errands, deliveries⟩ ∧
      ∀ row, program.Completes (Serves queue.number) { credits with held := credits.held + 1 }
        (.ok (some (TableQueue.delivery row))) { credits with held := credits.held + 1 } := by
  have counted : Serves queue.number credits ⟨.credits (.reserve queue.number), some true⟩
      { credits with held := credits.held + 1 } := by
    have served := @Serves.counted queue.number credits (.reserve queue.number) rfl
    rwa [Credits.serve_reserve, room] at served
  have called := reachable.step (@Step.call _ _ .consume rfl)
  refine ⟨_, ?_, called.step (@Step.ask _ _ _ [] _ _ _ (.call (.credits (.reserve queue.number)))
    _ true counted), fun row => ?_⟩
  · change QueueErrand.claims ⟨.consume, (SwapStore.query _).unlessStopped >>= _⟩ = true
    rw [SwapStore.query, unlessStopped_bind, Wire.database, Program.unlessStopped]
    rfl
  · have claimed := (@completes_query queue { credits with held := credits.held + 1 }
      (.claim queue.settings.name queue.settings.visibilityTimeoutSecs) (some row)).unlessStopped
    exact completes_bind.mpr ⟨true, _, ⟨rfl, rfl⟩, completes_bind.mpr ⟨_, _, claimed, rfl, rfl⟩⟩

end Undisturbed

/-- One delivery is in somebody's hands and one claim is pending, which is as much as may be. -/
theorem credits_balanced_atLimit :
    let queue : TableQueue := ⟨0, .standard⟩
    ∃ scene : CreditScene, Reachable queue scene ∧ scene.credits = ⟨2, 2⟩ ∧
      scene.pendingClaims = 1 ∧ scene.unsettled = 1 ∧ scene.Balanced queue := by
  intro queue
  have started : Reachable queue ⟨⟨2, 0⟩, [], []⟩ := .initial 2
  rcases started.claiming rfl with ⟨first, _, reserved, completes⟩
  have taken := (reserved.goesOn (completes ⟨1, "", 1⟩)).step (@Step.finish _ _ [] _ _ _ _)
  rcases taken.claiming rfl with ⟨second, pending, reachable, _⟩
  have balanced := credits_balanced reachable
  refine ⟨_, reachable, rfl, ?_, ?_, balanced⟩
  · rw [pendingClaims, List.countP_cons, pending]
    rfl
  · have both := balanced.held_eq
    rw [pendingClaims, List.countP_cons, pending] at both
    change (2 : Int) = 1 + _ at both
    omega

end CreditScene

end SwapLedger
