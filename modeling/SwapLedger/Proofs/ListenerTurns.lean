import SwapLedger.Proofs.ListenerRuns

/-!
# Turns of the listener

Whatever comes in and whatever fails, a turn of the listener remembers the greatest slot that has
been dealt with, and launches a backfill if one is due.
-/

namespace SwapLedger

namespace TurnCalls

/-- Whether a call launches nothing and tells nothing of the stream. -/
def Quiet (answered : AnsweredCall Services) : Prop :=
  launched? answered = none ∧ ∀ watch : StreamWatch, watch.see answered = watch

/-- Nothing has been done about a block yet. -/
structure Idle (turn : TurnCalls) : Prop where
  unnoted : turn.notes = false
  unlaunched : turn.launches = []
  unhandled : turn.filterMap IntakeEvent.of? = []

theorem Idle.stream {turn : TurnCalls} (idle : turn.Idle) (call : StreamCall)
    (answer : Option call.Answer) : Idle (turn ++ [⟨.stream call, answer⟩]) := by
  constructor
  · simpa [notes, isNote] using idle.unnoted
  · simpa [launches, launched?] using idle.unlaunched
  · simpa [IntakeEvent.of?] using idle.unhandled

@[simp]
theorem notes_concat {turn : TurnCalls} {answered : AnsweredCall Services} :
    notes (turn ++ [answered]) = (turn.notes || isNote answered) := by
  simp [notes]

end TurnCalls

namespace TurnHistory

variable {past : TurnHistory} {turn : TurnCalls} {last : Option Slot} {slot : Slot}

theorem handled_concat :
    Handled (past ++ [turn]) slot ↔ Handled past slot ∨ turn.Handles slot := by
  simp [Handled, or_and_right, exists_or]

/-- A turn that deals with no block changes nothing. -/
theorem tells_concat_of_not_handles (none : ∀ slot, ¬ turn.Handles slot) :
    Tells (past ++ [turn]) last ↔ Tells past last := by
  have same (slot : Slot) : Handled (past ++ [turn]) slot ↔ Handled past slot := by
    rw [handled_concat, or_iff_left (none slot)]
  cases last with
  | none => simp only [Tells, same]
  | some greatest => simp only [Tells, Greatest, same]

/-- The slot that is remembered after one more block has been dealt with. -/
def noted (slot : Slot) (last : Option Slot) : Option Slot :=
  let greatest := max slot (last.getD 0)
  if greatest = 0 then none else some greatest

theorem left_le_max (slot other : Slot) : slot ≤ max slot other := by
  rw [UInt64.le_iff_toNat_le, UInt64.toNat_max]
  exact Nat.le_max_left _ _

theorem right_le_max (slot other : Slot) : other ≤ max slot other := by
  rw [UInt64.le_iff_toNat_le, UInt64.toNat_max]
  exact Nat.le_max_right _ _

theorem noted_eq (positive : slot ≠ 0 ∨ last.getD 0 ≠ 0) :
    noted slot last = some (max slot (last.getD 0)) := by
  refine if_neg fun zero => ?_
  have left := left_le_max slot (last.getD 0)
  have right := right_le_max slot (last.getD 0)
  rw [zero] at left right
  have leftZero := UInt64.le_antisymm left UInt64.zero_le
  have rightZero := UInt64.le_antisymm right UInt64.zero_le
  exact positive.elim (· leftZero) (· rightZero)

theorem tells_concat_of_handles (tells : Tells past last) (positive : slot ≠ 0)
    (handles : ∀ other, turn.Handles other ↔ other = slot) :
    Tells (past ++ [turn]) (noted slot last) := by
  rw [noted_eq (.inl positive)]
  have handled (other : Slot) :
      Handled (past ++ [turn]) other ↔ Handled past other ∨ other = slot := by
    rw [handled_concat, handles]
  cases last with
  | none =>
      have same : max slot ((none : Option Slot).getD 0) = slot := by
        apply UInt64.toNat_inj.mp
        simp [UInt64.toNat_max]
      rw [same]
      refine ⟨(handled slot).mpr (.inr rfl), fun other there => ?_⟩
      rcases (handled other).mp there with earlier | rfl
      · exact absurd earlier (tells other)
      · exact UInt64.le_refl _
  | some greatest =>
      rcases tells with ⟨there, bound⟩
      rw [Option.getD_some]
      constructor
      · rw [handled]
        rcases Nat.le_total slot.toNat greatest.toNat with below | above
        · left
          rwa [show max slot greatest = greatest by
            rw [← UInt64.toNat_inj, UInt64.toNat_max, Nat.max_eq_right below]]
        · right
          rw [← UInt64.toNat_inj, UInt64.toNat_max, Nat.max_eq_left above]
      · intro other isThere
        rcases (handled other).mp isThere with earlier | rfl
        · exact UInt64.le_trans (bound other earlier) (right_le_max _ _)
        · exact left_le_max _ _

end TurnHistory

/-- What a listener can tell in the middle of a turn. -/
structure Lookout where
  last : Option Slot
  calls : TurnCalls

namespace Lookout

/-- Whether a call reads the slot that is remembered, or notes one. -/
def remembers : AnsweredCall Services → Bool
  | ⟨.shared .lastProcessed, some _⟩ | ⟨.shared (.noteProcessed _), some _⟩ => true
  | _ => false

/-- What becomes of the slot that is remembered. -/
inductive Remembers (last : Option Slot) : AnsweredCall Services → Option Slot → Prop where
  | read : Remembers last ⟨.shared .lastProcessed, some last⟩ last
  | note (slot : Slot) :
      Remembers last ⟨.shared (.noteProcessed slot), some ()⟩ (TurnHistory.noted slot last)
  | other {answered : AnsweredCall Services} (unconcerned : remembers answered = false) :
      Remembers last answered last

/-- How calls are answered. -/
def Serves : Servant Services Lookout := fun lookout answered next =>
  next.calls = lookout.calls ++ [answered] ∧ Remembers lookout.last answered next.last ∧
    ∀ notification, TurnCalls.notification? answered = some notification → notification.slot ≠ 0

/-- What holds all along. -/
structure Holds (past : TurnHistory) (lookout : Lookout) : Prop where
  tells : (past.counted lookout.calls).Tells lookout.last
  once : lookout.calls.launches.length ≤ 1
  due : ∀ job ∈ lookout.calls.launches,
    ∃ range, past.Due lookout.calls range ∧ job = .backfill range.first range.last

end Lookout

/-- What a listener should know of the stream. -/
def Listener.watch (listener : Listener) : StreamWatch :=
  ⟨decide (listener.phase = .streaming), listener.recovering⟩

namespace Lookout

/-- What holds at the end of a turn. -/
structure Ends (past : TurnHistory) (next : Option Listener) (lookout : Lookout) : Prop where
  counted : (past.counted lookout.calls).Tells lookout.last
  tells : TurnHistory.Tells (past ++ [lookout.calls]) lookout.last
  recovers : past.Recovers lookout.calls
  watched : ∀ listener ∈ next,
    StreamWatch.after (past.flatten ++ lookout.calls) = listener.watch

variable {past : TurnHistory} {last : Option Slot} {calls : TurnCalls} {next : Option Listener}
  {lookout : Lookout} {configuration : Configuration}

theorem Ends.holds (ends : Ends past next lookout) : Holds past lookout :=
  ⟨ends.counted, ends.recovers.once, fun job => (ends.recovers.mem_iff job).mp⟩

theorem tells_counted (tells : past.Tells last) (unnoted : calls.notes = false) :
    (past.counted calls).Tells last := by
  rwa [TurnHistory.counted, unnoted, if_neg Bool.false_ne_true]

theorem holds_of_idle (tells : past.Tells last) (idle : calls.Idle) : Holds past ⟨last, calls⟩ := by
  refine ⟨tells_counted tells idle.unnoted, ?_, ?_⟩ <;> simp [idle.unlaunched]

theorem ends_of_idle (tells : past.Tells last) (idle : calls.Idle)
    (notDue : ∀ range, ¬ past.Due calls range)
    (watched : ∀ listener ∈ next, StreamWatch.after (past.flatten ++ calls) = listener.watch) :
    Ends past next ⟨last, calls⟩ := by
  have unlaunched := idle.unlaunched
  refine ⟨tells_counted tells idle.unnoted, ?_,
    ⟨by simp [unlaunched], by simp [unlaunched, notDue], absurd unlaunched⟩, watched⟩
  apply (TurnHistory.tells_concat_of_not_handles ?_).mpr tells
  rintro slot ⟨block, _, handled⟩
  rw [idle.unhandled] at handled
  cases handled

/-- A call is answered. -/
theorem ensures_call {Result : Type} {always : Lookout → Prop} {ends : Result → Lookout → Prop}
    {call : ServiceCall} {next : call.Answer → Program Services Result}
    (later : ∀ answer last', Remembers last ⟨call, some answer⟩ last' →
      (∀ notification, TurnCalls.notification? ⟨call, some answer⟩ = some notification →
        notification.slot ≠ 0) →
      always ⟨last', calls ++ [⟨call, some answer⟩]⟩ ∧
        (next answer).Ensures Serves always ends ⟨last', calls ++ [⟨call, some answer⟩]⟩) :
    (Program.call call >>= next : Program Services Result).Ensures Serves always ends
      ⟨last, calls⟩ := by
  rintro answer ⟨last', _⟩ ⟨rfl, remembers, positive⟩
  exact later answer last' remembers positive

theorem ensures_unlessStopped_call {Result : Type} {always : Lookout → Prop}
    {ends : Result → Lookout → Prop} {call : ServiceCall}
    {next : Option call.Answer → Program Services Result}
    (later : ∀ (answer : Option call.Answer) last', Remembers last ⟨call, answer⟩ last' →
      (∀ notification, TurnCalls.notification? ⟨call, answer⟩ = some notification →
        notification.slot ≠ 0) →
      always ⟨last', calls ++ [⟨call, answer⟩]⟩ ∧
        (next answer).Ensures Serves always ends ⟨last', calls ++ [⟨call, answer⟩]⟩) :
    ((Program.call call).unlessStopped >>= next : Program Services Result).Ensures Serves always
      ends ⟨last, calls⟩ := by
  rw [Program.call, Program.unlessStopped]
  rintro (_ | answer) ⟨last', _⟩ ⟨rfl, remembers, positive⟩
  · exact later none last' remembers positive
  · exact later (some answer) last' remembers positive

/-- A call of the stream alone leaves a turn as idle as it was. -/
theorem ensures_stream {Result : Type} {ends : Result → Lookout → Prop} {call : StreamCall}
    {next : call.Answer → Program Services Result} (tells : past.Tells last) (idle : calls.Idle)
    (later : ∀ answer, (next answer).Ensures Serves (Holds past) ends
      ⟨last, calls ++ [⟨.stream call, some answer⟩]⟩) :
    (Services.stream call >>= next : Program Services Result).Ensures Serves (Holds past) ends
      ⟨last, calls⟩ := by
  apply ensures_call
  intro answer last' remembers _
  cases remembers with
  | other => exact ⟨holds_of_idle tells (idle.stream call (some answer)), later answer⟩

/-- A notification has been received, and what was due has been launched. -/
structure Noticed (past : TurnHistory) (notification : BlockNotification) (calls : TurnCalls) :
    Prop where
  notified : calls.notified? = some notification
  once : calls.launches.length ≤ 1
  mem_iff : ∀ job, job ∈ calls.launches ↔
    ∃ range, past.Due calls range ∧ job = .backfill range.first range.last
  watched : StreamWatch.after (past.flatten ++ calls) = ⟨true, false⟩

variable {notification : BlockNotification}

theorem Noticed.recovers (noticed : Noticed past notification calls) : past.Recovers calls :=
  ⟨noticed.once, noticed.mem_iff, fun _ => noticed.watched⟩

theorem Noticed.holds (noticed : Noticed past notification calls)
    (tells : (past.counted calls).Tells last) : Holds past ⟨last, calls⟩ :=
  ⟨tells, noticed.once, fun job => (noticed.mem_iff job).mp⟩

theorem Noticed.concat (noticed : Noticed past notification calls)
    {answered : AnsweredCall Services} (quiet : TurnCalls.Quiet answered) :
    Noticed past notification (calls ++ [answered]) := by
  have launches_eq : TurnCalls.launches (calls ++ [answered]) = calls.launches := by
    simp [TurnCalls.launches, quiet.1]
  have notified_eq : TurnCalls.notified? (calls ++ [answered]) = calls.notified? := by
    rw [noticed.notified, TurnCalls.notified?, List.findSome?_append]
    exact Option.or_eq_some_iff.mpr (.inl noticed.notified)
  have due_iff (range : SlotRange) :
      past.Due (calls ++ [answered]) range ↔ past.Due calls range := by
    rw [TurnHistory.Due, notified_eq]
    rfl
  refine ⟨notified_eq.trans noticed.notified, ?_, ?_, ?_⟩
  · rw [launches_eq]
    exact noticed.once
  · intro job
    rw [launches_eq, noticed.mem_iff]
    simp only [due_iff]
  · rw [← List.append_assoc, StreamWatch.after_append, noticed.watched]
    exact quiet.2 _

/-- The items of a block are published, as far as this succeeds. -/
theorem ensures_publishAll {items : List WorkItem} (slot : Slot) (done : List WorkItem)
    (noticed : Noticed past notification calls) (tells : past.Tells last)
    (unnoted : calls.notes = false) (so_far : calls.filterMap IntakeEvent.of? =
      .marked slot true :: BlockStage.publications (done.map (·, true))) :
    (Listener.publishAll items).Ensures Serves (Holds past)
      (fun outcome lookout => lookout.last = last ∧ Noticed past notification lookout.calls ∧
        lookout.calls.notes = false ∧ match outcome with
        | .ok () => lookout.calls.filterMap IntakeEvent.of? =
            .marked slot true :: BlockStage.publications ((done ++ items).map (·, true))
        | .error _ => ∃ item, .published item false ∈ lookout.calls.filterMap IntakeEvent.of?)
      ⟨last, calls⟩ := by
  induction items generalizing calls done with
  | nil =>
      refine Program.ensures_pure ⟨rfl, noticed, unnoted, ?_⟩
      rwa [List.append_nil]
  | cons item rest ih =>
      rw [Listener.publishAll]
      apply ensures_call
      intro answer last' remembers _
      cases remembers with
      | other =>
          have quiet : TurnCalls.Quiet ⟨.queue (.publish item), some answer⟩ := ⟨rfl, fun _ => rfl⟩
          have noticed' := noticed.concat quiet
          have unnoted' : TurnCalls.notes (calls ++ [⟨.queue (.publish item), some answer⟩]) =
              false := by
            simp [unnoted, TurnCalls.isNote]
          refine ⟨noticed'.holds (tells_counted tells unnoted'), ?_⟩
          rcases answer with failure | ⟨⟩
          · refine Program.ensures_pure ⟨rfl, noticed', unnoted', item, ?_⟩
            simp [IntakeEvent.of?]
          · have rest := ih (done ++ [item]) noticed' unnoted' (by
              rw [List.filterMap_append, so_far]
              simp [BlockStage.publications, IntakeEvent.of?])
            simpa using rest

theorem handles_iff {slot other : Slot} {block : EncodedBlock}
    (notified : calls.notified? = some ⟨slot, block⟩) :
    calls.Handles other ↔ other = slot ∧ calls.filterMap IntakeEvent.of? =
      .marked slot true :: BlockStage.publications ((block.items slot).map (·, true)) := by
  constructor
  · rintro ⟨block', notified', handled⟩
    cases notified.symm.trans notified'
    exact ⟨rfl, handled⟩
  · rintro ⟨rfl, handled⟩
    exact ⟨block, notified, handled⟩

/-- A block is dealt with. Its slot is remembered if all goes well, and otherwise the slot that was
remembered stays the right one. -/
theorem ensures_handleBlock {slot : Slot} {block : EncodedBlock} (positive : slot ≠ 0)
    (noticed : Noticed past ⟨slot, block⟩ calls) (tells : past.Tells last)
    (unnoted : calls.notes = false) (fresh : calls.filterMap IntakeEvent.of? = []) :
    (Listener.handleBlock slot block).Ensures Serves (Holds past)
      (fun _ lookout => (past.counted lookout.calls).Tells lookout.last ∧
        TurnHistory.Tells (past ++ [lookout.calls]) lookout.last ∧
        Noticed past ⟨slot, block⟩ lookout.calls) ⟨last, calls⟩ := by
  have failed {calls : TurnCalls} (noticed : Noticed past ⟨slot, block⟩ calls)
      (unnoted : calls.notes = false) (unhandled : calls.filterMap IntakeEvent.of? ≠
        .marked slot true :: BlockStage.publications ((block.items slot).map (·, true))) :
      (past.counted calls).Tells last ∧ TurnHistory.Tells (past ++ [calls]) last ∧
        Noticed past ⟨slot, block⟩ calls := by
    refine ⟨tells_counted tells unnoted, ?_, noticed⟩
    apply (TurnHistory.tells_concat_of_not_handles ?_).mpr tells
    exact fun other handles => unhandled ((handles_iff noticed.notified).mp handles).2
  rw [Listener.handleBlock]
  apply Program.ensures_reportAll (noticed.holds (tells_counted tells unnoted))
  apply ensures_call
  intro answer last' remembers _
  cases remembers with
  | other =>
      have quiet : TurnCalls.Quiet ⟨.store (.markProcessed slot), some answer⟩ :=
        ⟨rfl, fun _ => rfl⟩
      have noticed' := noticed.concat quiet
      have unnoted' : TurnCalls.notes (calls ++ [⟨.store (.markProcessed slot), some answer⟩]) =
          false := by
        simp [unnoted, TurnCalls.isNote]
      refine ⟨noticed'.holds (tells_counted tells unnoted'), ?_⟩
      rcases answer with failure | ⟨⟩
      · refine Program.ensures_pure (failed noticed' unnoted' ?_)
        simp [fresh, IntakeEvent.of?]
      · change Program.Ensures _ _ _ (Listener.publishAll (block.items slot) >>= _) _
        refine .bind ((ensures_publishAll slot [] noticed' tells unnoted' ?_).mono ?_)
        · simp [fresh, IntakeEvent.of?, BlockStage.publications]
        · rintro outcome ⟨_, calls⟩ ⟨rfl, noticed, unnoted, happened⟩
          rcases outcome with failure | ⟨⟩
          · rcases happened with ⟨item, unpublished⟩
            refine Program.ensures_pure (failed noticed unnoted fun handled => ?_)
            rw [handled] at unpublished
            simp [BlockStage.publications] at unpublished
          · apply ensures_call
            intro answer last' remembers _
            cases remembers with
            | other unconcerned => cases unconcerned
            | note =>
                have quiet : TurnCalls.Quiet ⟨.shared (.noteProcessed slot), some ()⟩ :=
                  ⟨rfl, fun _ => rfl⟩
                have noticed' := noticed.concat quiet
                have handled : List.filterMap IntakeEvent.of?
                    (calls ++ [⟨.shared (.noteProcessed slot), some ()⟩]) = .marked slot true ::
                      BlockStage.publications ((block.items slot).map (·, true)) := by
                  rw [List.filterMap_append, happened]
                  simp [IntakeEvent.of?]
                have tells' := TurnHistory.tells_concat_of_handles tells positive fun other =>
                  (handles_iff noticed'.notified).trans (and_iff_left handled)
                have counted : past.counted (calls ++ [⟨.shared (.noteProcessed slot), some ()⟩]) =
                    past ++ [calls ++ [⟨.shared (.noteProcessed slot), some ()⟩]] := by
                  simp [TurnHistory.counted, TurnCalls.isNote]
                rw [← counted] at tells'
                refine ⟨noticed'.holds tells', Program.ensures_pure ⟨tells', ?_, noticed'⟩⟩
                rwa [← counted]

/-- What is due is what lies between the slot that is remembered and the one that comes in. -/
theorem due_iff (tells : past.Tells last) (notified : calls.notified? = some notification)
    (lost : StreamWatch.after past.flatten = ⟨true, true⟩) (range : SlotRange) :
    past.Due calls range ↔ SlotRange.gap? last notification.slot = some range := by
  constructor
  · rintro ⟨_, notification', greatest, notified', isGreatest, apart, rfl⟩
    cases notified.symm.trans notified'
    cases last with
    | none => exact absurd isGreatest.1 (tells greatest)
    | some remembered =>
        have same : remembered = greatest :=
          UInt64.le_antisymm (isGreatest.2 remembered tells.1) (tells.2 greatest isGreatest.1)
        subst same
        exact if_pos apart
  · intro gap
    cases last with
    | none => cases gap
    | some greatest =>
        change (if greatest.toNat + 1 < notification.slot.toNat then _ else none) = _ at gap
        split_ifs at gap with apart
        cases gap
        exact ⟨lost, notification, greatest, notified, tells, apart, rfl⟩

theorem not_due_of_watch {watch : StreamWatch} (watched : StreamWatch.after past.flatten = watch)
    (unlike : watch ≠ ⟨true, true⟩) (range : SlotRange) : ¬ past.Due calls range := by
  rintro ⟨lost, _⟩
  exact unlike (watched.symm.trans lost)

/-- The first notification after a lost connection. What is due does not depend on what is called
after it. -/
theorem ensures_recoverGap {clients : Nat} (backed : clients ≠ 0) {text : String}
    (parsed : BlockNotification.parse? text = some notification) (tells : past.Tells last)
    (lost : StreamWatch.after past.flatten = ⟨true, true⟩) :
    (Listener.recoverGap clients notification.slot).Ensures Serves (Holds past)
      (fun _ lookout => lookout.last = last ∧ Noticed past notification lookout.calls ∧
        lookout.calls.notes = false ∧ lookout.calls.filterMap IntakeEvent.of? = [])
      ⟨last, [⟨.stream .receive, some (.text text)⟩]⟩ := by
  have notified (after : TurnCalls) : TurnCalls.notified?
      (⟨.stream .receive, some (.text text)⟩ :: after) = some notification := by
    simp [TurnCalls.notified?, TurnCalls.notification?, parsed]
  have received : StreamWatch.see ⟨true, true⟩ ⟨.stream .receive, some (.text text)⟩ =
      ⟨true, false⟩ := by
    simp [StreamWatch.see, StreamWatch.receive, parsed]
  rw [Listener.recoverGap]
  apply ensures_call
  intro answer last' remembers _
  cases remembers with
  | other unconcerned => cases unconcerned
  | read =>
      refine ⟨holds_of_idle tells ⟨rfl, rfl, rfl⟩, ?_⟩
      have due (after : TurnCalls) := due_iff tells (notified after) lost
      simp only
      cases gap : SlotRange.gap? last notification.slot with
      | none =>
          refine Program.ensures_pure
            ⟨rfl, ⟨notified _, Nat.zero_le _, fun job => ?_, ?_⟩, rfl, rfl⟩
          · refine iff_of_false List.not_mem_nil ?_
            rintro ⟨range, isDue, _⟩
            cases gap.symm.trans ((due _ range).mp isDue)
          · rw [StreamWatch.after_append, lost]
            exact received
      | some range =>
          refine Program.ensures_request rfl (holds_of_idle tells ⟨rfl, rfl, rfl⟩) fun _ => ?_
          rw [if_pos backed]
          change Program.Ensures _ _ _ (Services.shared (.launch _) >>= pure) _
          apply ensures_call
          intro answer last' remembers _
          cases remembers with
          | other =>
              have noticed : Noticed past notification [⟨.stream .receive, some (.text text)⟩,
                  ⟨.shared .lastProcessed, some last⟩,
                  ⟨.shared (.launch (.backfill range.first range.last)), some answer⟩] := by
                refine ⟨notified _, Nat.le_refl 1, fun job => ?_, ?_⟩
                · simp only [due, gap, Option.some.injEq, exists_eq_left']
                  exact List.mem_singleton
                · rw [StreamWatch.after_append, lost]
                  exact received
              refine ⟨noticed.holds (tells_counted tells rfl), ?_⟩
              exact Program.ensures_pure ⟨rfl, noticed, rfl, rfl⟩

/-- A block is dealt with, and a failure is reported. -/
theorem ensures_handled {slot : Slot} {block : EncodedBlock} {entry : Failure → LogEntry}
    {rest : Except Failure Nat → Program Services Bool}
    (ok : ∀ count, rest (.ok count) = pure false)
    (error : ∀ failure, rest (.error failure) =
      Program.report (entry failure) >>= fun _ => pure false)
    (positive : slot ≠ 0) (noticed : Noticed past ⟨slot, block⟩ calls) (tells : past.Tells last)
    (unnoted : calls.notes = false) (fresh : calls.filterMap IntakeEvent.of? = []) :
    (Listener.handleBlock slot block >>= rest).Ensures Serves (Holds past)
      (fun recovering lookout => Ends past (some ⟨.streaming, recovering⟩) lookout)
      ⟨last, calls⟩ := by
  refine .bind ((ensures_handleBlock positive noticed tells unnoted fresh).mono ?_)
  rintro outcome lookout ⟨counted, tells, noticed⟩
  have ends : Ends past (some ⟨.streaming, false⟩) lookout := by
    refine ⟨counted, tells, noticed.recovers, ?_⟩
    rintro _ ⟨⟩
    exact noticed.watched
  cases outcome with
  | ok count =>
      rw [ok]
      exact Program.ensures_pure ends
  | error failure =>
      rw [error]
      exact Program.ensures_request rfl ends.holds fun _ => Program.ensures_pure ends

/-- A text comes in over the subscription. -/
theorem ensures_receiveText {recovering : Bool} {text : String}
    (backed : configuration.rpcUrls ≠ []) (tells : past.Tells last)
    (watched : StreamWatch.after past.flatten = ⟨true, recovering⟩)
    (positive : ∀ notification, BlockNotification.parse? text = some notification →
      notification.slot ≠ 0) :
    (Listener.receiveText configuration recovering text).Ensures Serves (Holds past)
      (fun recovering lookout => Ends past (some ⟨.streaming, recovering⟩) lookout)
      ⟨last, [⟨.stream .receive, some (.text text)⟩]⟩ := by
  rw [Listener.receiveText]
  cases parsed : BlockNotification.parse? text with
  | none =>
      refine Program.ensures_pure (ends_of_idle tells ⟨rfl, rfl, rfl⟩ ?_ ?_)
      · rintro range ⟨_, notification, _, notified, _⟩
        simp [TurnCalls.notified?, TurnCalls.notification?, parsed] at notified
      · rintro _ ⟨⟩
        rw [StreamWatch.after_append, watched]
        simp [StreamWatch.see, StreamWatch.receive, parsed, Listener.watch]
  | some notification =>
      cases recovering with
      | false =>
          refine ensures_handled (fun _ => rfl) (fun _ => rfl) (positive _ parsed)
            ⟨?_, Nat.zero_le _, fun job => ?_, ?_⟩ tells rfl rfl
          · simp [TurnCalls.notified?, TurnCalls.notification?, parsed]
          · refine iff_of_false List.not_mem_nil ?_
            rintro ⟨range, due, _⟩
            exact not_due_of_watch watched (by simp) range due
          · rw [StreamWatch.after_append, watched]
            simp [StreamWatch.see, StreamWatch.receive, parsed]
      | true =>
          have clients : configuration.rpcUrls.length ≠ 0 := by simpa using backed
          refine .bind ((ensures_recoverGap clients parsed tells watched).mono ?_)
          rintro _ ⟨_, calls⟩ ⟨rfl, noticed, unnoted, fresh⟩
          exact ensures_handled (fun _ => rfl) (fun _ => rfl) (positive _ parsed) noticed tells
            unnoted fresh

theorem ensures_lose {delayMs : Nat} {reason : String}
    (delay : delayMs = configuration.listener.reconnectDelayMs.toNat)
    (ends : Ends past (some ⟨.apart delayMs, true⟩) lookout) :
    (Listener.lose configuration reason).Ensures Serves (Holds past) (Ends past) lookout := by
  subst delay
  exact Program.ensures_request rfl ends.holds fun _ => ends

/-- A message of the subscription comes in. -/
theorem ensures_receive {recovering : Bool} (backed : configuration.rpcUrls ≠ [])
    (tells : past.Tells last) (watched : StreamWatch.after past.flatten = ⟨true, recovering⟩) :
    (Listener.receive configuration recovering).Ensures Serves (Holds past) (Ends past)
      ⟨last, []⟩ := by
  have unnoticed (calls : TurnCalls) (listener : Listener) (idle : calls.Idle)
      (unnotified : calls.notified? = none)
      (seen : calls.foldl StreamWatch.see ⟨true, recovering⟩ = listener.watch) :
      Ends past (some listener) ⟨last, calls⟩ := by
    refine ends_of_idle tells idle ?_ ?_
    · rintro range ⟨_, notification, _, notified, _⟩
      cases unnotified.symm.trans notified
    · rintro _ ⟨⟩
      rw [StreamWatch.after_append, watched]
      exact seen
  rw [Listener.receive]
  apply ensures_unlessStopped_call
  intro answer last' remembers positive
  cases remembers with
  | other =>
      refine ⟨holds_of_idle tells ⟨rfl, rfl, rfl⟩, ?_⟩
      rcases answer with _ | event
      · refine Program.ensures_pure (ends_of_idle tells ⟨rfl, rfl, rfl⟩ ?_ (by simp))
        rintro range ⟨_, notification, _, notified, _⟩
        cases notified
      · cases event with
        | text text =>
            refine .bind ((ensures_receiveText backed tells watched positive).mono ?_)
            exact fun recovering lookout ends => Program.ensures_pure ends
        | ping payload =>
            refine ensures_stream tells ⟨rfl, rfl, rfl⟩ fun answer => ?_
            rcases answer with reason | ⟨⟩
            · exact ensures_lose rfl (unnoticed _ _ ⟨rfl, rfl, rfl⟩ rfl rfl)
            · exact Program.ensures_pure (unnoticed _ _ ⟨rfl, rfl, rfl⟩ rfl rfl)
        | other => exact Program.ensures_pure (unnoticed _ _ ⟨rfl, rfl, rfl⟩ rfl rfl)
        | closing => exact ensures_lose rfl (unnoticed _ _ ⟨rfl, rfl, rfl⟩ rfl rfl)
        | ended => exact ensures_lose rfl (unnoticed _ _ ⟨rfl, rfl, rfl⟩ rfl rfl)
        | failed reason => exact ensures_lose rfl (unnoticed _ _ ⟨rfl, rfl, rfl⟩ rfl rfl)

/-- Before a subscription is agreed to, nothing but the connection changes. -/
theorem ends_of_apart {recovering : Bool} {listener : Listener} (tells : past.Tells last)
    (watched : StreamWatch.after past.flatten = ⟨false, recovering⟩)
    (idle : calls.Idle) (seen : calls.foldl StreamWatch.see ⟨false, recovering⟩ = listener.watch) :
    Ends past (some listener) ⟨last, calls⟩ := by
  refine ends_of_idle tells idle (not_due_of_watch watched (by simp)) ?_
  rintro _ ⟨⟩
  rw [StreamWatch.after_append, watched]
  exact seen

theorem ensures_awaitConsent {recovering : Bool} (tells : past.Tells last)
    (watched : StreamWatch.after past.flatten = ⟨false, recovering⟩) :
    (Listener.awaitConsent configuration recovering).Ensures Serves (Holds past) (Ends past)
      ⟨last, []⟩ := by
  rw [Listener.awaitConsent]
  refine ensures_stream tells ⟨rfl, rfl, rfl⟩ fun event => ?_
  cases event with
  | text text =>
      have ends (listener : Listener) (seen : StreamWatch.receive ⟨false, recovering⟩
          (.text text) = listener.watch) : Ends past (some listener)
            ⟨last, [⟨.stream .receive, some (.text text)⟩]⟩ :=
        ends_of_apart tells watched ⟨rfl, rfl, rfl⟩ seen
      dsimp only
      cases consent : BlockStream.consent? text with
      | none =>
          refine Program.ensures_pure (ends _ ?_)
          simp [StreamWatch.receive, consent, Listener.watch]
      | some consent? =>
          rcases consent? with reason | number
          · refine ensures_lose rfl (ends _ ?_)
            simp [StreamWatch.receive, consent, Listener.watch, StreamWatch.broken]
          · refine Program.ensures_request rfl (holds_of_idle tells ⟨rfl, rfl, rfl⟩) fun _ => ?_
            refine Program.ensures_pure (ends _ ?_)
            simp [StreamWatch.receive, consent, Listener.watch]
  | failed reason => exact ensures_lose rfl (ends_of_apart tells watched ⟨rfl, rfl, rfl⟩ rfl)
  | ended => exact ensures_lose rfl (ends_of_apart tells watched ⟨rfl, rfl, rfl⟩ rfl)
  | ping payload => exact Program.ensures_pure (ends_of_apart tells watched ⟨rfl, rfl, rfl⟩ rfl)
  | other => exact Program.ensures_pure (ends_of_apart tells watched ⟨rfl, rfl, rfl⟩ rfl)
  | closing => exact Program.ensures_pure (ends_of_apart tells watched ⟨rfl, rfl, rfl⟩ rfl)

theorem ensures_connect {recovering : Bool} (tells : past.Tells last)
    (watched : StreamWatch.after past.flatten = ⟨false, recovering⟩) :
    (Listener.connect configuration recovering).Ensures Serves (Holds past) (Ends past)
      ⟨last, []⟩ := by
  rw [Listener.connect]
  refine Program.ensures_request rfl (holds_of_idle tells ⟨rfl, rfl, rfl⟩) fun _ => ?_
  refine ensures_stream tells ⟨rfl, rfl, rfl⟩ fun connected => ?_
  rcases connected with reason | ⟨⟩
  · exact ensures_lose rfl (ends_of_apart tells watched ⟨rfl, rfl, rfl⟩ rfl)
  · refine ensures_stream tells ⟨rfl, rfl, rfl⟩ fun subscribed => ?_
    rcases subscribed with reason | ⟨⟩
    · exact ensures_lose rfl (ends_of_apart tells watched ⟨rfl, rfl, rfl⟩ rfl)
    · exact Program.ensures_pure (ends_of_apart tells watched ⟨rfl, rfl, rfl⟩ rfl)

theorem ensures_step {listener : Listener} (backed : configuration.rpcUrls ≠ [])
    (tells : past.Tells last) (watched : StreamWatch.after past.flatten = listener.watch) :
    (listener.step configuration).Ensures Serves (Holds past) (Ends past) ⟨last, []⟩ := by
  rcases listener with ⟨phase, recovering⟩
  cases phase with
  | apart delayMs =>
      rw [Listener.step]
      simp only [Program.pause, Program.request]
      rw [Program.unlessStopped]
      rintro (_ | ⟨⟩) _ ⟨⟩
      · refine ⟨holds_of_idle tells ⟨rfl, rfl, rfl⟩, ?_⟩
        refine Program.ensures_pure (ends_of_idle tells ⟨rfl, rfl, rfl⟩ ?_ (by simp))
        exact not_due_of_watch watched (by simp [Listener.watch])
      · exact ⟨holds_of_idle tells ⟨rfl, rfl, rfl⟩, ensures_connect tells watched⟩
  | subscribing => exact ensures_awaitConsent tells watched
  | streaming => exact ensures_receive backed tells watched

/-- A turn makes up for what has been missed, and nothing else. -/
theorem ensures_turn {listener : Listener} (backed : configuration.rpcUrls ≠ [])
    (tells : past.Tells last) (watched : StreamWatch.after past.flatten = listener.watch) :
    (listener.turn configuration).Ensures Serves (Holds past)
      (fun job lookout => ∃ next, job = Option.map Job.listener next ∧ Ends past next lookout)
      ⟨last, []⟩ := by
  rw [Listener.turn]
  refine .bind ((ensures_step backed tells watched).mono ?_)
  intro next lookout ends
  cases next with
  | some listener => exact Program.ensures_pure ⟨some listener, rfl, ends⟩
  | none =>
      exact Program.ensures_request rfl ends.holds fun _ => Program.ensures_pure ⟨none, rfl, ends⟩

end Lookout

end SwapLedger
