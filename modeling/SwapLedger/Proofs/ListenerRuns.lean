import Mathlib.Data.List.Basic
import SwapLedger.Job.Turn
import SwapLedger.Proofs.Publication
import SwapLedger.Proofs.Servants

/-!
# Runs of the listener

A listener goes from turn to turn, and other parts of the instance use what is shared in the
meantime. All its calls are kept, turn by turn. From these alone it can be told which blocks it has
dealt with, and when a backfill is due: at the first notification after a connection has failed or
ended, if a block has been dealt with before and there are slots in between.
-/

namespace SwapLedger

/-- What the calls of a listener tell of the block stream. -/
structure StreamWatch where
  /-- Whether the node has agreed to the subscription. -/
  agreed : Bool
  /-- Whether a connection has failed or ended since the last notification. -/
  lost : Bool

namespace StreamWatch

/-- After a connection has failed or ended. -/
def broken : StreamWatch := ⟨false, true⟩

/-- After something has come in. -/
def receive (watch : StreamWatch) : StreamEvent → StreamWatch
  | .text text =>
    if watch.agreed then
      if (BlockNotification.parse? text).isSome then { watch with lost := false } else watch
    else
      match BlockStream.consent? text with
      | none => watch
      | some (.error _) => broken
      | some (.ok _) => { watch with agreed := true }
  | .closing => if watch.agreed then broken else watch
  | .failed _ | .ended => broken
  | .ping _ | .other => watch

/-- After a call. -/
def see (watch : StreamWatch) : AnsweredCall Services → StreamWatch
  | ⟨.stream .connect, some (.error _)⟩ => broken
  | ⟨.stream (.subscribe _), some (.error _)⟩ => broken
  | ⟨.stream (.pong _), some (.error _)⟩ => broken
  | ⟨.stream .receive, some event⟩ => watch.receive event
  | _ => watch

/-- After some calls of a listener that has not connected yet. -/
def after (calls : List (AnsweredCall Services)) : StreamWatch := calls.foldl see ⟨false, false⟩

/-- What a listener knows after calls depends on the earlier ones only through what it knew then. -/
theorem after_append (before calls : List (AnsweredCall Services)) :
    after (before ++ calls) = calls.foldl see (after before) := List.foldl_append

end StreamWatch

/-- The calls of a turn of the listener, or of a part of one. -/
abbrev TurnCalls := List (AnsweredCall Services)

namespace TurnCalls

/-- The notification in a call. -/
def notification? : AnsweredCall Services → Option BlockNotification
  | ⟨.stream .receive, some (.text text)⟩ => BlockNotification.parse? text
  | _ => none

variable (turn : TurnCalls)

/-- What the turn has been notified of. -/
def notified? : Option BlockNotification := turn.findSome? notification?

/-- The job that a call has launched. -/
def launched? : AnsweredCall Services → Option Job
  | ⟨.shared (.launch job), some _⟩ => some job
  | _ => none

/-- Whether a call notes a slot that has been dealt with. -/
def isNote : AnsweredCall Services → Bool
  | ⟨.shared (.noteProcessed _), some _⟩ => true
  | _ => false

/-- Whether the turn has noted a slot. -/
def notes : Bool := turn.any isNote

/-- The jobs that have been launched. -/
def launches : List Job := turn.filterMap launched?

/-- Whether a block has been dealt with: it has been entered into the ledger, and all of its items
have been published. -/
def Handles (slot : Slot) : Prop :=
  ∃ block, notified? turn = some ⟨slot, block⟩ ∧ turn.filterMap IntakeEvent.of? =
    .marked slot true :: BlockStage.publications ((block.items slot).map (·, true))

end TurnCalls

/-- The turns of a listener so far. -/
abbrev TurnHistory := List TurnCalls

namespace TurnHistory

variable (past : TurnHistory)

def Handled (slot : Slot) : Prop := ∃ turn ∈ past, TurnCalls.Handles turn slot

/-- Whether a slot is the greatest that has been dealt with. -/
def Greatest (slot : Slot) : Prop := Handled past slot ∧ ∀ other, Handled past other → other ≤ slot

/-- Whether the last slot that is remembered is the greatest that has been dealt with. -/
def Tells : Option Slot → Prop
  | none => ∀ slot, ¬ Handled past slot
  | some slot => Greatest past slot

/-- The turns that count for the last slot that is remembered. One that goes on counts as soon as it
has noted its slot. -/
def counted (turn : TurnCalls) : TurnHistory := if turn.notes then past ++ [turn] else past

/-- Whether a backfill is due in a turn, for a range. -/
def Due (turn : TurnCalls) (range : SlotRange) : Prop :=
  StreamWatch.after past.flatten = ⟨true, true⟩ ∧
    ∃ notification last, turn.notified? = some notification ∧ Greatest past last ∧
      last.toNat + 1 < notification.slot.toNat ∧ range = ⟨last + 1, notification.slot - 1⟩

/-- Whether a turn launches what is due, and nothing else. Afterwards there is nothing to make up
for until a connection is lost again. -/
structure Recovers (turn : TurnCalls) : Prop where
  once : turn.launches.length ≤ 1
  mem_iff : ∀ job, job ∈ turn.launches ↔
    ∃ range, Due past turn range ∧ job = .backfill range.first range.last
  settled : turn.launches ≠ [] → StreamWatch.after (past.flatten ++ turn) = ⟨true, false⟩

end TurnHistory

/-- A listener at work. -/
structure ListenerRun where
  shared : Shared
  past : TurnHistory
  /-- The calls of the turn that is going on. -/
  turn : TurnCalls
  program : Program Services (Option Job)

namespace ListenerRun

/-- One thing that happens. No block has the slot 0. -/
inductive Step (configuration : Configuration) (run : ListenerRun) : ListenerRun → Prop where
  | others {next : Shared} (last_eq : next.lastProcessed = run.shared.lastProcessed) :
      Step configuration run { run with shared := next }
  | ask {request : Request Services} {resume : request.Answer → Program Services (Option Job)}
      {answer : request.Answer} {next : Shared} (asks : run.program = .ask request resume)
      (answers : Shared.Serves.Answers run.shared (request.answeredCall? answer) next)
      (positive : ∀ answered ∈ request.answeredCall? answer, ∀ notification,
        TurnCalls.notification? answered = some notification → notification.slot ≠ 0) :
      Step configuration run
        ⟨next, run.past, run.turn ++ (request.answeredCall? answer).toList, resume answer⟩
  | goOn {job : Job} (ready : run.program = .done (some job)) :
      Step configuration run ⟨run.shared, run.past ++ [run.turn], [], job.turn configuration⟩

/-- What can come about from the first turn on. -/
inductive Reachable (configuration : Configuration) : ListenerRun → Prop where
  | initial {shared : Shared} (nothing : shared.lastProcessed = none) :
      Reachable configuration
        ⟨shared, [], [], (Listener.initial configuration).turn configuration⟩
  | step {before after : ListenerRun} (reachable : Reachable configuration before)
      (step : Step configuration before after) : Reachable configuration after

end ListenerRun

end SwapLedger
