import SwapLedger.Proofs.PoolSizing
import SwapLedger.Proofs.Servants
import SwapLedger.WorkerPool

/-!
# Ticks of the monitor

A tick looks at the depth of the queue, tells the queue how many deliveries it may hand out, and
sizes the pool. Workers may leave the pool at any time; apart from that, a tick that fails changes
nothing, and one that does not has brought both the queue and the pool to what the depth calls for.
Between ticks, the queue and the pool agree.
-/

namespace SwapLedger

/-- A pool and the queue that it serves. -/
structure PoolScene where
  shared : Shared
  /-- How many deliveries the queue hands out. -/
  queuePrefetch : UInt16
  /-- The workers that have left the pool, in order. -/
  departed : List Nat

namespace PoolScene

/-- Whether just these workers leave the pool, and nothing else becomes of the pool and the queue.
What else the parts of the instance share does not matter. -/
structure Meanwhile (scene : PoolScene) (gone : List Nat) (next : PoolScene) : Prop where
  members_eq : next.shared.members = gone.foldl PoolMembers.leave scene.shared.members
  signals_eq : next.shared.signals = scene.shared.signals
  prefetch_eq : next.shared.prefetch = scene.shared.prefetch
  queuePrefetch_eq : next.queuePrefetch = scene.queuePrefetch
  departed_eq : next.departed = scene.departed ++ gone

/-- What a call does to a pool and its queue. A queue that refuses a prefetch stays as it is. -/
inductive Answers : Servant Services PoolScene where
  | shared {scene : PoolScene} {call : SharedCall} {answer : Option call.Answer} {next : Shared}
      (served : Shared.Serves scene.shared ⟨.shared call, answer⟩ next) :
      Answers scene ⟨.shared call, answer⟩ { scene with shared := next }
  | limited {scene : PoolScene} (limit : UInt16) :
      Answers scene ⟨.queue (.setPrefetch limit), some (.ok ())⟩
        { scene with queuePrefetch := limit }
  | refused {scene : PoolScene} (limit : UInt16) (failure : Failure) :
      Answers scene ⟨.queue (.setPrefetch limit), some (.error failure)⟩ scene
  | elsewhere {scene : PoolScene} {call : ServiceCall} {answer : Option call.Answer}
      (outside : ∀ other, call ≠ .shared other)
      (unlimited : ∀ limit, call ≠ .queue (.setPrefetch limit)) : Answers scene ⟨call, answer⟩ scene

/-- How calls are answered while workers leave. -/
def Serves : Servant Services PoolScene := fun scene answered next =>
  ∃ gone before after later, scene.Meanwhile gone before ∧ Answers before answered after ∧
    after.Meanwhile later next

/-- Whether the pool and the queue have been brought to a target, after some workers had left. -/
structure BroughtTo (scene : PoolScene) (gone : List Nat) (target : PoolTarget) (next : PoolScene) :
    Prop where
  members_eq : next.shared.members =
    (gone.foldl PoolMembers.leave scene.shared.members).resize target.workers
  size_eq : next.shared.members.size = target.workers
  signals_eq : next.shared.signals =
    ((gone.foldl PoolMembers.leave scene.shared.members).leaving target.workers).map .worker ++
      scene.shared.signals
  prefetch_eq : next.shared.prefetch = target.prefetch
  queuePrefetch_eq : next.queuePrefetch = target.prefetch
  departed_eq : next.departed = scene.departed ++ gone

/-- The prefetch that the queue is told. -/
def limit? : AnsweredCall Services → Option UInt16
  | ⟨.queue (.setPrefetch limit), _⟩ => some limit
  | _ => none

/-- How a tick ends. Workers may leave after it has come to its result. -/
inductive Ticked (table : ScalingTable) (scene : PoolScene) :
    Except Failure PoolTarget → PoolScene → List (AnsweredCall Services) → Prop where
  | failed {failure : Failure} {gone : List Nat} {last : PoolScene}
      {calls : List (AnsweredCall Services)} (unchanged : scene.Meanwhile gone last) :
      Ticked table scene (.error failure) last calls
  | done {depth : UInt64} {gone later : List Nat} {sized last : PoolScene}
      {calls : List (AnsweredCall Services)}
      (brought : scene.BroughtTo gone (table.targetFor depth) sized)
      (after : sized.Meanwhile later last)
      (told : calls.filterMap limit? =
        if scene.shared.prefetch = (table.targetFor depth).prefetch then []
        else [(table.targetFor depth).prefetch]) :
      Ticked table scene (.ok (table.targetFor depth)) last
        (⟨.queue .depth, some (.ok depth)⟩ :: calls)

/-- What a pool and its queue can come to when the pool is started and then ticks, whatever the
queue answers and whichever workers leave meanwhile. -/
inductive Reached (table : ScalingTable) : PoolScene → Prop where
  | started {scene last : PoolScene} {calls : List (AnsweredCall Services)}
      (run : (WorkerPool.start table).HasRun Serves scene calls (.ok ()) last) : Reached table last
  | ticked {scene last : PoolScene} {calls : List (AnsweredCall Services)}
      {outcome : Except Failure PoolTarget} (reached : Reached table scene)
      (run : (WorkerPool.tick table).HasRun Serves scene calls outcome last) : Reached table last
  | left {scene last : PoolScene} {gone : List Nat} (reached : Reached table scene)
      (meanwhile : scene.Meanwhile gone last) : Reached table last

/-- The pool and the queue with a prefetch. -/
def limitedTo (scene : PoolScene) (limit : UInt16) : PoolScene :=
  { scene with shared := { scene.shared with prefetch := limit }, queuePrefetch := limit }

/-- Whether the pool knows what the queue has been told. -/
def Agrees (scene : PoolScene) : Prop := scene.queuePrefetch = scene.shared.prefetch

variable {scene middle last : PoolScene} {gone later : List Nat} {limit : UInt16}
  {table : ScalingTable}

theorem Meanwhile.refl (scene : PoolScene) : scene.Meanwhile [] scene :=
  ⟨rfl, rfl, rfl, rfl, (List.append_nil _).symm⟩

theorem Meanwhile.trans (first : scene.Meanwhile gone middle)
    (rest : middle.Meanwhile later last) : scene.Meanwhile (gone ++ later) last where
  members_eq := by rw [rest.members_eq, first.members_eq, List.foldl_append]
  signals_eq := rest.signals_eq.trans first.signals_eq
  prefetch_eq := rest.prefetch_eq.trans first.prefetch_eq
  queuePrefetch_eq := rest.queuePrefetch_eq.trans first.queuePrefetch_eq
  departed_eq := by rw [rest.departed_eq, first.departed_eq, List.append_assoc]

theorem Meanwhile.limitedTo (meanwhile : scene.Meanwhile gone last) :
    (scene.limitedTo limit).Meanwhile gone (last.limitedTo limit) :=
  { meanwhile with prefetch_eq := rfl, queuePrefetch_eq := rfl }

theorem Agrees.limitedTo_eq (agrees : scene.Agrees) (same : scene.shared.prefetch = limit) :
    scene.limitedTo limit = scene := by
  subst same
  rcases scene with ⟨shared, queuePrefetch, departed⟩
  simp only [Agrees] at agrees
  subst agrees
  rfl

/-- Workers who leave do not change that the limit of the queue and the remembered one agree. -/
theorem Meanwhile.agrees (meanwhile : scene.Meanwhile gone last) (agrees : scene.Agrees) :
    last.Agrees := by
  rw [Agrees, meanwhile.queuePrefetch_eq, meanwhile.prefetch_eq]
  exact agrees

/-! ## Calls -/

theorem Serves.depth {answer : Except Failure UInt64}
    (served : Serves scene ⟨.queue .depth, some answer⟩ last) :
    ∃ gone, scene.Meanwhile gone last := by
  rcases served with ⟨gone, before, _, later, first, _ | _ | _ | _, rest⟩
  exact ⟨_, first.trans rest⟩

theorem Serves.refused {failure : Failure}
    (served : Serves scene ⟨.queue (.setPrefetch limit), some (.error failure)⟩ last) :
    ∃ gone, scene.Meanwhile gone last := by
  rcases served with ⟨gone, before, after, later, first, answered, rest⟩
  cases answered with
  | refused => exact ⟨_, first.trans rest⟩
  | elsewhere _ unlimited => exact absurd rfl (unlimited limit)

theorem Serves.limited
    (served : Serves scene ⟨.queue (.setPrefetch limit), some (.ok ())⟩ last) :
    ∃ gone, Meanwhile { scene with queuePrefetch := limit } gone last := by
  rcases served with ⟨gone, before, after, later, first, answered, rest⟩
  cases answered with
  | limited =>
      have told : Meanwhile { scene with queuePrefetch := limit } gone
          { before with queuePrefetch := limit } := { first with queuePrefetch_eq := rfl }
      exact ⟨_, told.trans rest⟩
  | elsewhere _ unlimited => exact absurd rfl (unlimited limit)

/-- A call to the shared data is answered from what is there when its turn comes, with workers
leaving before and after. -/
theorem Serves.shared {call : SharedCall} {answer : call.Answer}
    (served : Serves scene ⟨.shared call, some answer⟩ last) :
    ∃ gone before next later moment, scene.Meanwhile gone before ∧
      before.shared.serve moment call = .answered answer next ∧
      Meanwhile { before with shared := next } later last := by
  rcases served with ⟨gone, before, after, later, first, answered, rest⟩
  cases answered with
  | shared served =>
      cases served with
      | answered moment served => exact ⟨gone, before, _, later, moment, first, served, rest⟩
      | elsewhere outside => exact absurd rfl (outside call)
  | elsewhere outside => exact absurd rfl (outside call)

/-! ## Programs -/

variable {Result : Type} {ends : Result → PoolScene → List (AnsweredCall Services) → Prop}

/-- Every answer that the scene can give to a call has to be accounted for, whoever leaves in the
meantime. -/
theorem recounts_call {call : ServiceCall} {next : call.Answer → Program Services Result}
    (later : ∀ answer middle, Serves scene ⟨call, some answer⟩ middle →
      (next answer).Recounts Serves (fun _ => True)
        (fun result last calls => ends result last (⟨call, some answer⟩ :: calls)) middle) :
    (Program.ask (.call call) .done >>= next).Recounts Serves (fun _ => True) ends scene :=
  fun answer middle served => ⟨trivial, later answer middle served⟩

theorem hasRun_call {call : ServiceCall} {answer : call.Answer}
    {next : call.Answer → Program Services Result} {calls : List (AnsweredCall Services)}
    {result : Result} {after : PoolScene} (served : Answers scene ⟨call, some answer⟩ middle)
    (leaving : middle.Meanwhile gone after)
    (rest : (next answer).HasRun Serves after calls result last) :
    (Program.ask (.call call) .done >>= next).HasRun Serves scene
      (⟨call, some answer⟩ :: calls) result last := by
  have serves : Serves scene ⟨call, some answer⟩ after :=
    ⟨[], scene, middle, gone, .refl scene, served, leaving⟩
  exact (Program.hasRun_call serves).bind rest

/-- How telling the queue a prefetch ends, if the queue is told some prefetches on the way. -/
inductive Limited (scene : PoolScene) (limit : UInt16) (told : List UInt16) :
    Except Failure Unit → PoolScene → List (AnsweredCall Services) → Prop where
  | refused {failure : Failure} {gone : List Nat} {last : PoolScene}
      {calls : List (AnsweredCall Services)} (unchanged : scene.Meanwhile gone last) :
      Limited scene limit told (.error failure) last calls
  | limited {gone : List Nat} {last : PoolScene} {calls : List (AnsweredCall Services)}
      (after : (scene.limitedTo limit).Meanwhile gone last)
      (told_eq : calls.filterMap limit? = told) : Limited scene limit told (.ok ()) last calls

/-- Setting the limit either changes the queue's and is told so, or is refused and leaves it. -/
theorem recounts_setPrefetch : (WorkerPool.setPrefetch limit).Recounts Serves (fun _ => True)
    (Limited scene limit [limit]) scene := by
  refine recounts_call fun answer middle served => ?_
  rcases answer with failure | ⟨⟩
  · rcases Serves.refused served with ⟨gone, unchanged⟩
    exact Program.recounts_pure (.refused unchanged)
  · rcases Serves.limited served with ⟨gone, told⟩
    refine recounts_call fun answer last served => ?_
    rcases Serves.shared served with ⟨gone', before, next, later, moment, first, noted, rest⟩
    cases noted
    have both : (scene.limitedTo limit).Meanwhile (gone ++ gone')
        { before with shared := { before.shared with prefetch := limit } } :=
      { told.trans first with prefetch_eq := rfl }
    exact Program.recounts_pure (.limited (both.trans rest) rfl)

/-- The queue is told a prefetch only if the pool has another one. -/
theorem recounts_updatePrefetch (agrees : scene.Agrees) :
    (WorkerPool.updatePrefetch limit).Recounts Serves (fun _ => True)
      (Limited scene limit (if scene.shared.prefetch = limit then [] else [limit])) scene := by
  refine recounts_call fun current middle served => ?_
  rcases Serves.shared served with ⟨gone, before, next, later, moment, first, read, rest⟩
  cases read
  have unchanged := first.trans rest
  rw [first.prefetch_eq]
  by_cases same : scene.shared.prefetch = limit
  · rw [if_pos same, if_pos same]
    have limited : (scene.limitedTo limit).Meanwhile (gone ++ later) middle := by
      rwa [agrees.limitedTo_eq same]
    exact Program.recounts_pure (.limited limited rfl)
  · rw [if_neg same, if_neg same]
    refine recounts_setPrefetch.mono fun outcome last calls ended => ?_
    cases ended with
    | refused unchanged' => exact .refused (unchanged.trans unchanged')
    | limited after told =>
        exact .limited (unchanged.limitedTo.trans after) told

/-- Sizing the pool brings it to a target that the queue has been told. -/
theorem BroughtTo.of_limited {target : PoolTarget} {shared : Shared} {size : Nat} {moment : Moment}
    (limited : (scene.limitedTo target.prefetch).Meanwhile gone middle)
    (resized : middle.shared.serve moment (.resize target.workers) = .answered size shared) :
    scene.BroughtTo gone target { middle with shared := shared } := by
  cases resized
  constructor
  case members_eq => rw [Shared.members_resize, limited.members_eq]; rfl
  case size_eq => rw [Shared.members_resize, PoolMembers.size_resize]
  case signals_eq => rw [Shared.signals_resize, limited.signals_eq, limited.members_eq]; rfl
  case prefetch_eq => rw [Shared.resize, Shared.foldl_launch]; exact limited.prefetch_eq
  case queuePrefetch_eq => exact limited.queuePrefetch_eq
  case departed_eq => exact limited.departed_eq

/-- A tick that starts with the limits agreeing ends as a tick does. From the sizing on it does not
matter who has left by then, as the pool is sized from those who remain. -/
theorem recounts_tick (agrees : scene.Agrees) :
    (WorkerPool.tick table).Recounts Serves (fun _ => True) (Ticked table scene) scene := by
  refine recounts_call fun answer middle served => ?_
  rcases Serves.depth served with ⟨gone, unchanged⟩
  rcases answer with failure | depth
  · exact Program.recounts_pure (.failed unchanged)
  · refine .bind ((recounts_updatePrefetch (unchanged.agrees agrees)).mono ?_)
    intro outcome middle' calls ended
    cases ended with
    | refused unchanged' => exact Program.recounts_pure (.failed (unchanged.trans unchanged'))
    | @limited gone' _ _ after told =>
        refine recounts_call fun size last served => ?_
        rcases Serves.shared served with ⟨gone'', before, next, later, moment, first, resized, rest⟩
        refine Program.recounts_reportAll trivial (Program.recounts_pure ?_)
        have limited := (unchanged.limitedTo.trans after).trans first
        refine .done (.of_limited limited resized) rest ?_
        rw [List.filterMap_append, told, unchanged.prefetch_eq]
        exact List.append_nil _

/-! ## Replies of the queue -/

/-- Whether the queue replies in one way only when it is told a prefetch. -/
def Replies (reply : Except Failure Unit) (calls : List (AnsweredCall Services)) : Prop :=
  ∀ limit answer, ⟨.queue (.setPrefetch limit), some answer⟩ ∈ calls → answer = reply

theorem Replies.append {reply : Except Failure Unit} {calls later : List (AnsweredCall Services)}
    (replies : Replies reply calls) (rest : Replies reply later) : Replies reply (calls ++ later) :=
  fun limit answer member =>
    (List.mem_append.mp member).elim (replies limit answer) (rest limit answer)

theorem replies_setPrefetch (reply : Except Failure Unit) :
    Replies reply [⟨.queue (.setPrefetch limit), some reply⟩] := by
  intro other answer member
  cases List.mem_singleton.mp member
  rfl

theorem replies_shared (reply : Except Failure Unit) (call : SharedCall)
    (answer : Option call.Answer) : Replies reply [⟨.shared call, answer⟩] := by
  intro limit answer member
  cases List.mem_singleton.mp member

/-- The queue may reply in any way when it is told a prefetch. -/
theorem exists_run_setPrefetch (scene : PoolScene) (limit : UInt16) (reply : Except Failure Unit) :
    ∃ calls last, (WorkerPool.setPrefetch limit).HasRun Serves scene calls reply last ∧
      Replies reply calls := by
  rcases reply with failure | ⟨⟩
  · exact ⟨_, scene, hasRun_call (.refused limit failure) (.refl _) Program.hasRun_pure,
      replies_setPrefetch _⟩
  · have noted : (Services.shared (.notePrefetch limit) >>= fun _ => pure (.ok ())).HasRun Serves
        { scene with queuePrefetch := limit } [⟨.shared (.notePrefetch limit), some ()⟩]
        (Except.ok () : Except Failure Unit) (scene.limitedTo limit) :=
      hasRun_call (.shared (.answered ⟨0, 0, 0, false⟩ rfl)) (.refl _) Program.hasRun_pure
    exact ⟨_, _, hasRun_call (.limited limit) (.refl _) noted,
      (replies_setPrefetch _).append (replies_shared _ _ _)⟩

/-- The limit can be updated whatever the queue replies. -/
theorem exists_run_updatePrefetch (scene : PoolScene) (limit : UInt16)
    (reply : Except Failure Unit) : ∃ calls outcome last,
      (WorkerPool.updatePrefetch limit).HasRun Serves scene calls outcome last ∧
        Replies reply calls := by
  have rest : ∃ calls outcome last, (if scene.shared.prefetch = limit then pure (.ok ())
      else WorkerPool.setPrefetch limit).HasRun Serves scene calls outcome last ∧
        Replies reply calls := by
    by_cases same : scene.shared.prefetch = limit
    · rw [if_pos same]
      exact ⟨[], .ok (), scene, Program.hasRun_pure, nofun⟩
    · rw [if_neg same]
      rcases exists_run_setPrefetch scene limit reply with ⟨calls, last, run, replies⟩
      exact ⟨calls, reply, last, run, replies⟩
  rcases rest with ⟨calls, outcome, last, run, replies⟩
  exact ⟨_, outcome, last, hasRun_call (.shared (.answered ⟨0, 0, 0, false⟩ rfl)) (.refl _) run,
    (replies_shared _ _ _).append replies⟩

/-- Whatever the queue answers, a tick comes to an end. -/
theorem exists_run_tick (scene : PoolScene) (depth : Except Failure UInt64)
    (reply : Except Failure Unit) : ∃ calls outcome last,
      (WorkerPool.tick table).HasRun Serves scene (⟨.queue .depth, some depth⟩ :: calls) outcome
        last ∧ Replies reply calls := by
  have asked : Answers scene ⟨.queue .depth, some depth⟩ scene := .elsewhere nofun nofun
  rcases depth with failure | depth
  · exact ⟨[], .error failure, scene, hasRun_call asked (.refl _) Program.hasRun_pure, nofun⟩
  · rcases exists_run_updatePrefetch scene (table.targetFor depth).prefetch reply with
      ⟨calls, outcome, middle, run, replies⟩
    rcases outcome with failure | ⟨⟩
    · exact ⟨_, _, _, hasRun_call asked (.refl _) (run.bind Program.hasRun_pure),
        replies.append nofun⟩
    · let target := table.targetFor depth
      let sized : PoolScene := { middle with shared := middle.shared.resize target.workers }
      have resized : Answers middle
          ⟨.shared (.resize target.workers), some middle.shared.members.size⟩ sized :=
        .shared (.answered ⟨0, 0, 0, false⟩ rfl)
      have silent := replies_shared reply (.resize target.workers) (some middle.shared.members.size)
      refine ⟨_, .ok target, sized, hasRun_call asked (.refl _) (run.bind ?_),
        replies.append silent⟩
      exact hasRun_call resized (.refl _) Program.hasRun_reportAll

/-! ## Pools that tick -/

/-- Whatever a tick ended with, the limits agree after it. -/
theorem Ticked.agrees {outcome : Except Failure PoolTarget} {calls : List (AnsweredCall Services)}
    (ticked : Ticked table scene outcome last calls) (agrees : scene.Agrees) : last.Agrees := by
  cases ticked with
  | failed unchanged => exact unchanged.agrees agrees
  | done brought after =>
      exact after.agrees (brought.queuePrefetch_eq.trans brought.prefetch_eq.symm)

/-- They agree once the pool has started. -/
theorem agrees_of_start {calls : List (AnsweredCall Services)}
    (run : (WorkerPool.start table).HasRun Serves scene calls (.ok ()) last) : last.Agrees := by
  have recounts : (WorkerPool.start table).Recounts Serves (fun _ => True)
      (fun outcome last _ => outcome = .ok () → last.Agrees) scene := by
    refine .bind (recounts_setPrefetch.mono fun outcome middle calls ended => ?_)
    cases ended with
    | refused => exact Program.recounts_pure nofun
    | limited after =>
        refine recounts_call fun size last served => Program.recounts_pure fun _ => ?_
        rcases Serves.shared served with ⟨gone, before, next, later, moment, first, resized, rest⟩
        have brought : BroughtTo scene _ table.baseline { before with shared := next } :=
          .of_limited (after.trans first) resized
        exact rest.agrees (brought.queuePrefetch_eq.trans brought.prefetch_eq.symm)
  exact (recounts.reaches run.reaches run.leads trivial).2 _ rfl rfl

theorem ticked_of_run {calls : List (AnsweredCall Services)} {outcome : Except Failure PoolTarget}
    (agrees : scene.Agrees)
    (run : (WorkerPool.tick table).HasRun Serves scene calls outcome last) :
    Ticked table scene outcome last calls :=
  ((recounts_tick agrees).reaches run.reaches run.leads trivial).2 _ rfl

/-- They agree between any two ticks. -/
theorem Reached.agrees (reached : Reached table scene) : scene.Agrees := by
  induction reached with
  | started run => exact agrees_of_start run
  | ticked _ run agrees => exact (ticked_of_run agrees run).agrees agrees
  | left _ meanwhile agrees => exact meanwhile.agrees agrees

/-- Between ticks, the pool knows what the queue has been told. Whatever the queue answers, a tick
comes to an end. One that fails changes nothing; one that does not brings the pool and the queue to
the target for the depth that it has read, and tells the queue a prefetch only if the pool has
another one. -/
theorem tick_all_or_nothing (reached : Reached table scene) :
    scene.queuePrefetch = scene.shared.prefetch ∧
      (∀ depth reply, ∃ calls outcome last, (WorkerPool.tick table).HasRun Serves scene
        (⟨.queue .depth, some depth⟩ :: calls) outcome last ∧ Replies reply calls) ∧
      ∀ calls outcome last, (WorkerPool.tick table).HasRun Serves scene calls outcome last →
        Ticked table scene outcome last calls :=
  ⟨reached.agrees, exists_run_tick scene, fun _ _ _ run => ticked_of_run reached.agrees run⟩

/-- A worker leaves during a tick that fails; the next tick gets three workers for the depth of
six. -/
theorem tick_all_or_nothing_refused_once :
    let table : ScalingTable := ⟨1, 1, 10, [⟨5, 3, 7⟩]⟩
    let started : PoolScene := ⟨(Shared.initial 1).resize 1, 1, []⟩
    let left : PoolScene :=
      ⟨{ started.shared with members := started.shared.members.leave 0 }, 1, [0]⟩
    let last : PoolScene := ⟨Shared.resize { left.shared with prefetch := 7 } 3, 7, [0]⟩
    let calls : List (AnsweredCall Services) :=
      [⟨.queue .depth, some (.ok 6)⟩, ⟨.shared .prefetch, some (1 : UInt16)⟩,
        ⟨.queue (.setPrefetch 7), some (.ok ())⟩, ⟨.shared (.notePrefetch 7), some ()⟩,
        ⟨.shared (.resize 3), some (0 : Nat)⟩]
    Reached table left ∧
      (WorkerPool.tick table).HasRun Serves left calls (.ok ⟨3, 7⟩) last ∧
      Ticked table left (.ok ⟨3, 7⟩) last calls := by
  intro table started left last calls
  have target : table.targetFor 6 = ⟨3, 7⟩ := by
    simp [ScalingTable.targetFor, ScalingTable.descending, table]
  have moment : Moment := ⟨0, 0, 0, false⟩
  have begun : (WorkerPool.start table).HasRun Serves ⟨Shared.initial 1, 0, []⟩
      [⟨.queue (.setPrefetch 1), some (.ok ())⟩, ⟨.shared (.notePrefetch 1), some ()⟩,
        ⟨.shared (.resize 1), some (0 : Nat)⟩] (.ok ()) started := by
    refine hasRun_call (.limited 1) (.refl _) ?_
    refine hasRun_call (.shared (.answered moment rfl)) (.refl _) ?_
    refine hasRun_call (.shared (.answered moment rfl)) (.refl _) ?_
    exact Program.hasRun_pure
  have refused : (WorkerPool.tick table).HasRun Serves started
      [⟨.queue .depth, some (.ok 6)⟩, ⟨.shared .prefetch, some (1 : UInt16)⟩,
        ⟨.queue (.setPrefetch 7), some (.error (.queue "refused"))⟩]
      (.error (.queue "refused")) left := by
    refine hasRun_call (.elsewhere nofun nofun) (.refl _) ?_
    change (WorkerPool.updatePrefetch (table.targetFor 6).prefetch >>= _).HasRun _ _ _ _ _
    rw [target]
    refine hasRun_call (.shared (.answered moment rfl)) (.refl _) ?_
    have leaves : started.Meanwhile [0] left := ⟨rfl, rfl, rfl, rfl, rfl⟩
    exact hasRun_call (.refused 7 _) leaves Program.hasRun_pure
  have grown : (WorkerPool.tick table).HasRun Serves left calls (.ok ⟨3, 7⟩) last := by
    refine hasRun_call (.elsewhere nofun nofun) (.refl _) ?_
    change (WorkerPool.updatePrefetch (table.targetFor 6).prefetch >>= _).HasRun _ _ _ _ _
    rw [target]
    refine hasRun_call (.shared (.answered moment rfl)) (.refl _) ?_
    refine hasRun_call (.limited 7) (.refl _) ?_
    refine hasRun_call (.shared (.answered moment rfl)) (.refl _) ?_
    refine hasRun_call (.shared (.answered moment rfl)) (.refl _) ?_
    exact ⟨.ask () (.here _), .nothing _⟩
  have reached : Reached table left := .ticked (.started begun) refused
  exact ⟨reached, grown, (tick_all_or_nothing reached).2.2 _ _ _ grown⟩

end PoolScene

end SwapLedger
