import SwapLedger.Proofs.ListenerTurns
import SwapLedger.Proofs.PoolSizing

/-!
# Gaps after lost connections

All along, the slot that a listener remembers is the greatest one that it has dealt with. After a
lost connection it makes up for exactly the slots between this one and the first that comes in.
-/

namespace SwapLedger

namespace Shared

/-- What becomes of the slot that is remembered when a call is answered. -/
theorem remembers_serve {shared next : Shared} {moment : Moment} {call : SharedCall}
    {answer : call.Answer} (served : shared.serve moment call = .answered answer next) :
    Lookout.Remembers shared.lastProcessed ⟨.shared call, some answer⟩ next.lastProcessed := by
  cases call with
  | lastProcessed =>
      cases served
      exact .read
  | noteProcessed slot =>
      cases served
      exact .note slot
  | resize workers =>
      cases served
      rw [lastProcessed_resize]
      exact .other rfl
  | nextLookup instant =>
      rw [serve, nextLookup] at served
      split at served
      · cases served
        exact .other rfl
      · split at served
        · cases served
          exact .other rfl
        · split_ifs at served <;> cases served <;> exact .other rfl
  | lockReconnect | join kind | awaitShutdown =>
      rw [serve] at served
      split_ifs at served <;> cases served <;> exact .other rfl
  | broadcast swaps =>
      rw [serve] at served
      cases served
      split_ifs <;> exact .other rfl
  | _ =>
      cases served
      exact .other rfl

end Shared

namespace TurnHistory

variable {past : TurnHistory} {turn : TurnCalls} {range : SlotRange}

/-- A range that is due is not empty, does not end in the slot 0, and nothing of it has been dealt
with. -/
theorem Due.range_missed (due : past.Due turn range) :
    range.first ≤ range.last ∧ range.last ≠ 0 ∧
      ∀ slot, past.Handled slot → ¬ (range.first ≤ slot ∧ slot ≤ range.last) := by
  rcases due with ⟨_, ⟨first, block⟩, greatest, _, ⟨_, bound⟩, apart, rfl⟩
  change greatest.toNat + 1 < first.toNat at apart
  have above : (greatest + 1).toNat = greatest.toNat + 1 := by
    have small := first.toNat_lt
    rw [UInt64.toNat_add, UInt64.toNat_one, Nat.mod_eq_of_lt (by omega)]
  have below : (first - 1).toNat = first.toNat - 1 := by
    apply UInt64.toNat_sub_of_le
    rw [UInt64.le_iff_toNat_le, UInt64.toNat_one]
    omega
  refine ⟨?_, ?_, ?_⟩
  · rw [UInt64.le_iff_toNat_le, above, below]
    omega
  · intro zero
    have isZero := congrArg UInt64.toNat zero
    rw [below, UInt64.toNat_zero] at isZero
    omega
  · rintro slot handled ⟨aboveLast, _⟩
    have bounded := UInt64.le_iff_toNat_le.mp (bound slot handled)
    rw [UInt64.le_iff_toNat_le, above] at aboveLast
    omega

end TurnHistory

namespace ListenerRun

/-- What the listener can tell of a run. -/
def lookout (run : ListenerRun) : Lookout := ⟨run.shared.lastProcessed, run.turn⟩

variable {configuration : Configuration} {run next : ListenerRun}

/-- What is shared answers a listener as the listener can tell. -/
theorem serves_of_answers {shared later : Shared} (calls : TurnCalls)
    {answered : AnsweredCall Services} (served : shared.Serves answered later)
    (positive : ∀ notification, TurnCalls.notification? answered = some notification →
      notification.slot ≠ 0) :
    Lookout.Serves ⟨shared.lastProcessed, calls⟩ answered
      ⟨later.lastProcessed, calls ++ [answered]⟩ := by
  refine ⟨rfl, ?_, positive⟩
  cases served with
  | answered moment served => exact Shared.remembers_serve served
  | @givenUp shared call => cases call <;> exact .other rfl
  | @elsewhere shared call answer outside =>
      cases call with
      | shared other => exact absurd rfl (outside other)
      | _ => exact .other rfl

/-- What holds all along a run. -/
structure Sound (configuration : Configuration) (run : ListenerRun) : Prop where
  holds : Lookout.Holds run.past run.lookout
  ensures : run.program.Ensures Lookout.Serves (Lookout.Holds run.past)
    (fun job lookout => ∃ next, job = Option.map Job.listener next ∧
      Lookout.Ends run.past next lookout) run.lookout
  recovered : ∀ earlier turn later, run.past = earlier ++ turn :: later →
    TurnHistory.Recovers earlier turn

theorem sound_turn {shared : Shared} {past : TurnHistory} {listener : Listener}
    (backed : configuration.rpcUrls ≠ []) (tells : past.Tells shared.lastProcessed)
    (watched : StreamWatch.after past.flatten = listener.watch)
    (recovered : ∀ earlier turn later, past = earlier ++ turn :: later →
      TurnHistory.Recovers earlier turn) :
    Sound configuration ⟨shared, past, [], listener.turn configuration⟩ :=
  ⟨Lookout.holds_of_idle tells ⟨rfl, rfl, rfl⟩, Lookout.ensures_turn backed tells watched,
    recovered⟩

theorem Sound.step (sound : Sound configuration run) (backed : configuration.rpcUrls ≠ [])
    (step : Step configuration run next) : Sound configuration next := by
  rcases sound with ⟨holds, ensures, recovered⟩
  cases step with
  | @others next last_eq =>
      have same : lookout { run with shared := next } = run.lookout := by
        rw [lookout, last_eq]
        rfl
      refine ⟨?_, ?_, recovered⟩
      · rwa [same]
      · rwa [same]
  | @ask request resume answer next asks answers positive =>
      rw [asks] at ensures
      have answers' : Lookout.Serves.Answers run.lookout (request.answeredCall? answer)
          ⟨next.lastProcessed, run.turn ++ (request.answeredCall? answer).toList⟩ := by
        cases seen : request.answeredCall? answer with
        | none =>
            rw [seen] at answers
            cases answers
            simp [Servant.Answers, lookout]
        | some answered =>
            rw [seen] at answers positive
            exact serves_of_answers run.turn answers (positive answered rfl)
      rcases ensures answer _ answers' with ⟨holds, ensures⟩
      exact ⟨holds, ensures, recovered⟩
  | @goOn job ready =>
      rw [ready] at ensures
      rcases ensures with ⟨_ | listener, ⟨⟩, ends⟩
      refine sound_turn backed ends.tells ?_ ?_
      · rw [List.flatten_append, List.flatten_singleton]
        exact ends.watched listener rfl
      · intro earlier turn later split
        rcases List.eq_nil_or_concat later with rfl | ⟨later, final, rfl⟩
        · rcases List.append_inj' split rfl with ⟨rfl, same⟩
          cases same
          exact ends.recovers
        · rw [List.concat_eq_append, ← List.cons_append, ← List.append_assoc] at split
          exact recovered earlier turn later (List.append_inj' split rfl).1

theorem sound_of_reachable (backed : configuration.rpcUrls ≠ [])
    (reachable : Reachable configuration run) : Sound configuration run := by
  induction reachable with
  | initial nothing =>
      refine sound_turn backed ?_ rfl ?_
      · rw [nothing]
        rintro slot ⟨_, ⟨⟩, _⟩
      · intro earlier turn later split
        simp at split
  | step reachable step sound => exact sound.step backed step

/-- What becomes of the slot that is remembered in a step. -/
theorem Step.lastProcessed (step : Step configuration run next) :
    next.shared.lastProcessed = run.shared.lastProcessed ∨
      ∃ slot, next.shared.lastProcessed = TurnHistory.noted slot run.shared.lastProcessed := by
  cases step with
  | others last_eq => exact .inl last_eq
  | goOn ready => exact .inl rfl
  | @ask request resume answer next asks answers positive =>
      cases seen : request.answeredCall? answer with
      | none =>
          rw [seen] at answers
          cases answers
          exact .inl rfl
      | some answered =>
          rw [seen] at answers positive
          have remembers := (serves_of_answers run.turn answers (positive answered rfl)).2.1
          generalize next.lastProcessed = last' at remembers
          cases remembers with
          | read | other => exact .inl rfl
          | note slot => exact .inr ⟨slot, rfl⟩

theorem lastProcessed_ne_zero (reachable : Reachable configuration run) :
    run.shared.lastProcessed ≠ some 0 := by
  induction reachable with
  | initial nothing => simp [nothing]
  | @step run next reachable step ih =>
      rcases step.lastProcessed with same | ⟨slot, noted⟩
      · rwa [same]
      · rw [noted, TurnHistory.noted]
        split_ifs with zero
        · simp
        · simpa using zero

/-- The slot that is remembered never becomes smaller. -/
theorem lastProcessed_mono (reachable : Reachable configuration run)
    (step : Step configuration run next) {slot : Slot}
    (remembered : run.shared.lastProcessed = some slot) :
    ∃ later, next.shared.lastProcessed = some later ∧ slot ≤ later := by
  rcases step.lastProcessed with same | ⟨other, noted⟩
  · exact ⟨slot, same.trans remembered, UInt64.le_refl slot⟩
  · have notZero := lastProcessed_ne_zero reachable
    rw [remembered] at noted notZero
    refine ⟨max other slot, noted.trans (TurnHistory.noted_eq (.inr ?_)),
      TurnHistory.right_le_max other slot⟩
    simpa using notZero

/-- What a listener keeps to. -/
structure CatchesUp (configuration : Configuration) (run : ListenerRun) : Prop where
  /-- The slot that is remembered is the greatest that has been dealt with. -/
  tells : (run.past.counted run.turn).Tells run.shared.lastProcessed
  grows : ∀ next slot, Step configuration run next → run.shared.lastProcessed = some slot →
    ∃ later, next.shared.lastProcessed = some later ∧ slot ≤ later
  /-- Every turn that is over has launched what was due. -/
  recovered : ∀ earlier turn later, run.past = earlier ++ turn :: later →
    TurnHistory.Recovers earlier turn
  /-- The turn that is going on launches nothing else. -/
  once : run.turn.launches.length ≤ 1
  due : ∀ job ∈ run.turn.launches,
    ∃ range, run.past.Due run.turn range ∧ job = .backfill range.first range.last
  /-- When the turn comes to its end, it counts, and it has launched what was due. -/
  ended : ∀ job, run.program = .done job →
    TurnHistory.Tells (run.past ++ [run.turn]) run.shared.lastProcessed ∧
      run.past.Recovers run.turn
  /-- A range that is due is not empty, does not end in the slot 0, and nothing of it has been dealt
  with. -/
  missed : ∀ earlier turn later, run.past ++ [run.turn] = earlier ++ turn :: later →
    ∀ range, TurnHistory.Due earlier turn range → range.first ≤ range.last ∧ range.last ≠ 0 ∧
      ∀ slot, TurnHistory.Handled earlier slot → ¬ (range.first ≤ slot ∧ slot ≤ range.last)

/-- Whatever comes in and whatever fails, the listener makes up for exactly the blocks between the
greatest slot that it has dealt with and the first that comes in after a lost connection. -/
theorem catchesUp_of_reachable (backed : configuration.rpcUrls ≠ [])
    (reachable : Reachable configuration run) : CatchesUp configuration run := by
  have sound := sound_of_reachable backed reachable
  constructor
  case tells => exact sound.holds.tells
  case grows => exact fun _ _ step => lastProcessed_mono reachable step
  case recovered => exact sound.recovered
  case once => exact sound.holds.once
  case due => exact sound.holds.due
  case ended =>
    intro job ready
    have ensures := sound.ensures
    rw [ready] at ensures
    rcases ensures with ⟨_, _, ends⟩
    exact ⟨ends.tells, ends.recovers⟩
  case missed => exact fun _ _ _ _ _ due => due.range_missed

namespace Reachable

variable {shared later : Shared} {past : TurnHistory} {turn : TurnCalls}
  {request : Request Services} {resume : request.Answer → Program Services (Option Job)}
  {text : String} {slot : Slot}

theorem unseen (reachable : Reachable configuration ⟨shared, past, turn, .ask request resume⟩)
    (answer : request.Answer) (unseen : request.answeredCall? answer = none) :
    Reachable configuration ⟨shared, past, turn, resume answer⟩ := by
  have step := @Step.ask configuration ⟨shared, past, turn, .ask request resume⟩ request resume
    answer shared rfl (by rw [unseen]; rfl) (by simp [unseen])
  rw [unseen, Option.toList_none, List.append_nil] at step
  exact .step reachable step

theorem seen (reachable : Reachable configuration ⟨shared, past, turn, .ask request resume⟩)
    (answer : request.Answer) {answered : AnsweredCall Services}
    (seen : request.answeredCall? answer = some answered) (serves : shared.Serves answered later)
    (positive : ∀ notification, TurnCalls.notification? answered = some notification →
      notification.slot ≠ 0) :
    Reachable configuration ⟨later, past, turn ++ [answered], resume answer⟩ := by
  have step := @Step.ask configuration ⟨shared, past, turn, .ask request resume⟩ request resume
    answer later rfl (by rwa [seen]) (by simpa [seen] using positive)
  rw [seen] at step
  exact .step reachable step

/-- A call of an outer service is answered. -/
theorem served (reachable : Reachable configuration ⟨shared, past, turn, .ask request resume⟩)
    (answer : request.Answer) {call : ServiceCall} {result : Option call.Answer}
    (seen : request.answeredCall? answer = some ⟨call, result⟩)
    (outside : ∀ other, call ≠ .shared other)
    (unnotified : TurnCalls.notification? ⟨call, result⟩ = none) :
    Reachable configuration ⟨shared, past, turn ++ [⟨call, result⟩], resume answer⟩ :=
  reachable.seen answer seen (.elsewhere outside) (by simp [unnotified])

/-- A call that concerns what is shared is answered. -/
theorem answered {call : SharedCall} {resume : call.Answer → Program Services (Option Job)}
    (reachable : Reachable configuration
      ⟨shared, past, turn, .ask (.call (.shared call)) resume⟩) {answer : call.Answer}
    (served : shared.serve ⟨0, 0, 0, false⟩ call = .answered answer later) :
    Reachable configuration
      ⟨later, past, turn ++ [⟨.shared call, some answer⟩], resume answer⟩ := by
  refine reachable.seen answer rfl (.answered _ served) ?_
  simp [TurnCalls.notification?]

/-- A notification comes in over the subscription. -/
theorem notified {block : EncodedBlock} (positive : slot ≠ 0)
    (parsed : BlockNotification.parse? text = some ⟨slot, block⟩)
    {resume : Option StreamEvent → Program Services (Option Job)}
    (reachable : Reachable configuration
      ⟨shared, past, turn, .ask (.unlessStopped (.call (.stream .receive))) resume⟩) :
    Reachable configuration ⟨shared, past, turn ++ [⟨.stream .receive, some (.text text)⟩],
      resume (some (.text text))⟩ := by
  refine reachable.seen (some (.text text)) rfl (.elsewhere (by simp)) ?_
  intro notification same
  cases parsed.symm.trans same
  exact positive

theorem goesOn {listener : Listener}
    (reachable : Reachable configuration ⟨shared, past, turn, .done (some (.listener listener))⟩) :
    Reachable configuration ⟨shared, past ++ [turn], [], listener.turn configuration⟩ :=
  .step reachable (@Step.goOn configuration ⟨shared, past, turn, _⟩ (.listener listener) rfl)

/-- A listener can connect, and the node can agree to its subscription. -/
theorem subscribes {delayMs : Nat} {recovering : Bool} {number : Slot}
    (agreement : BlockStream.consent? text = some (.ok number))
    (noBlock : BlockNotification.parse? text = none)
    (apart : Reachable configuration
      ⟨shared, past, [], Listener.turn configuration ⟨.apart delayMs, recovering⟩⟩) :
    ∃ past, Reachable configuration
      ⟨shared, past, [], Listener.turn configuration ⟨.streaming, recovering⟩⟩ := by
  simp only [Listener.turn, Listener.step, Program.pause, Program.request,
    Program.unlessStopped] at apart
  have waited := @unseen _ _ _ _ (.unlessStopped (.pause _)) _ apart (some ()) rfl
  have reported := @unseen _ _ _ _ (.report _) _ waited () rfl
  have connected := @served _ _ _ _ (.call (.stream .connect)) _ reported (.ok ()) _ _ rfl
    (by simp) rfl
  have asked := @served _ _ _ _ (.call (.stream (.subscribe _))) _ connected (.ok ()) _ _ rfl
    (by simp) rfl
  have received := @served _ _ _ _ (.call (.stream .receive)) _ asked.goesOn (.text text) _ _ rfl
    (by simp) noBlock
  simp only [Program.andThen, agreement] at received
  have agreed := @unseen _ _ _ _ (.report _) _ received () rfl
  exact ⟨_, agreed.goesOn⟩

/-- A connection can end. -/
theorem loses {recovering : Bool}
    (streaming : Reachable configuration
      ⟨shared, past, [], Listener.turn configuration ⟨.streaming, recovering⟩⟩) :
    ∃ past delayMs, Reachable configuration
      ⟨shared, past, [], Listener.turn configuration ⟨.apart delayMs, true⟩⟩ := by
  simp only [Listener.turn, Listener.step, Listener.receive, Services.stream,
    Program.unlessStopped] at streaming
  have received := @served _ _ _ _ (.unlessStopped (.call (.stream .receive))) _ streaming
    (some .ended) _ _ rfl (by simp) rfl
  have reported := @unseen _ _ _ _ (.report _) _ received () rfl
  exact ⟨_, _, reported.goesOn⟩

/-- A block can be dealt with. -/
theorem handles (positive : slot ≠ 0)
    (parsed : BlockNotification.parse? text = some ⟨slot, ⟨none, none⟩⟩)
    (streaming : Reachable configuration
      ⟨shared, past, [], Listener.turn configuration ⟨.streaming, false⟩⟩) :
    ∃ past, Reachable configuration
      ⟨shared.noteProcessed slot, past, [], Listener.turn configuration ⟨.streaming, false⟩⟩ := by
  simp only [Listener.turn, Listener.step, Listener.receive, Services.stream,
    Program.unlessStopped] at streaming
  have received := notified positive parsed streaming
  simp only [Listener.receiveText, parsed, Program.andThen] at received
  have marked := @served _ _ _ _ (.call (.store (.markProcessed slot))) _ received (.ok ()) _ _
    rfl (by simp) rfl
  have noted := @answered _ _ _ _ _ (.noteProcessed slot) _ marked _ rfl
  exact ⟨_, noted.goesOn⟩

/-- A backfill can be launched. -/
theorem launches {block : EncodedBlock} {range : SlotRange} (positive : slot ≠ 0)
    (backed : configuration.rpcUrls ≠ [])
    (parsed : BlockNotification.parse? text = some ⟨slot, block⟩)
    (gap : SlotRange.gap? shared.lastProcessed slot = some range)
    (streaming : Reachable configuration
      ⟨shared, past, [], Listener.turn configuration ⟨.streaming, true⟩⟩) :
    ∃ run, Reachable configuration run ∧
      run.turn.launches = [.backfill range.first range.last] := by
  simp only [Listener.turn, Listener.step, Listener.receive, Services.stream,
    Program.unlessStopped] at streaming
  have received := notified positive parsed streaming
  simp only [Listener.receiveText, parsed, Program.andThen] at received
  have read := @answered _ _ _ _ _ .lastProcessed _ received _ rfl
  simp only [Program.andThen, gap] at read
  have reported := @unseen _ _ _ _ (.report _) _ read () rfl
  have clients : configuration.rpcUrls.length ≠ 0 := by simpa using backed
  simp only [Program.andThen, if_pos clients] at reported
  have launched := @answered _ _ _ _ _ (.launch _) _ reported _ rfl
  exact ⟨_, launched, rfl⟩

end Reachable

/-- How the node tells of a block without transactions. -/
def notificationText (slot : String) : String :=
  "\x7b\"params\":\x7b\"result\":\x7b\"value\":\x7b\"slot\":" ++ slot ++ ",\"block\":\x7b" ++
    "\"previousBlockhash\":\"\",\"blockhash\":\"\",\"parentSlot\":0\x7d\x7d\x7d\x7d\x7d"

/-- The block of slot 5 is dealt with, the connection ends, and the next block has the slot 9. -/
theorem catchesUp_of_gap : ∃ configuration run, configuration.rpcUrls ≠ [] ∧
    CatchesUp configuration run ∧ run.turn.launches = [.backfill 6 8] := by
  let configuration : Configuration := ⟨["http://node"], "ws://node", "", .confirmed, .standard,
    .node, .reconnect, .insert, .standard, .standard, .standard⟩
  have backed : configuration.rpcUrls ≠ [] := List.cons_ne_nil _ _
  have agreement : BlockStream.consent? "\x7b\"result\":1\x7d" = some (.ok 1) := by decide +kernel
  have noBlock : BlockNotification.parse? "\x7b\"result\":1\x7d" = none := by decide +kernel
  have first : BlockNotification.parse? (notificationText "5") = some ⟨5, ⟨none, none⟩⟩ := by
    decide +kernel
  have second : BlockNotification.parse? (notificationText "9") = some ⟨9, ⟨none, none⟩⟩ := by
    decide +kernel
  have initial : Reachable configuration ⟨Shared.initial 0, [], [], _⟩ := .initial rfl
  rcases initial.subscribes agreement noBlock with ⟨_, streaming⟩
  rcases streaming.handles (by decide) first with ⟨_, handled⟩
  rcases handled.loses with ⟨_, _, lost⟩
  rcases lost.subscribes agreement noBlock with ⟨_, again⟩
  have gap : SlotRange.gap? ((Shared.initial 0).noteProcessed 5).lastProcessed 9 = some ⟨6, 8⟩ := by
    decide
  rcases again.launches (by decide) backed second gap with ⟨run, reachable, launched⟩
  exact ⟨configuration, run, backed, catchesUp_of_reachable backed reachable, launched⟩

end ListenerRun

end SwapLedger
