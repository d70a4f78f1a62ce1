import Mathlib.Logic.Function.Basic
import SwapLedger.Proofs.PoolDuty
import SwapLedger.Proofs.Servants

/-!
# Who belongs to the pool of workers

The pool is sized, workers come to their end, and everything stops, in any order and at any time.
Whatever happens, no id is given twice, and the members of the pool are the workers that have
neither left nor been told to stop.
-/

namespace SwapLedger

/-- A task that concerns the pool, and the worker whose task it is, if it is one's. -/
structure PoolTask where
  worker : Option Nat
  program : Program Services (Option Job)

/-- A running instance, as far as its pool is concerned. -/
structure Staff where
  shared : Shared
  /-- The workers that have been taken up. -/
  hired : List Nat
  tasks : Nat → Option PoolTask

namespace Staff

variable (staff : Staff)

/-- Gives a task something to do, or nothing any more. -/
def assign (number : Nat) (task : Option PoolTask) : Staff :=
  { staff with tasks := Function.update staff.tasks number task }

/-- The worker that is at work in a task. -/
def worker? (number : Nat) : Option Nat := (staff.tasks number).bind (·.worker)

/-- One thing that happens. -/
inductive Step (configuration : Configuration) : Staff → Prop where
  | command {number : Nat} (idle : staff.tasks number = none) (command : PoolCommand) :
      Step configuration (staff.assign number
        (some ⟨none, command.program configuration.pool >>= fun _ => pure none⟩))
  /-- A worker or the one who watches over them begins. -/
  | takeUp {number : Nat} {before after : List Job} {job : Job}
      (idle : staff.tasks number = none)
      (launched : staff.shared.launched = before ++ job :: after)
      (ofPool : job.kind = .worker ∨ job.kind = .monitor) :
      Step configuration
        ({ staff with
          shared := { staff.shared with launched := before ++ after },
          hired := staff.hired ++ job.worker?.toList }.assign number
            (some ⟨job.worker?, job.turn configuration⟩))
  | ask {number : Nat} {worker : Option Nat} {request : Request Services}
      {resume : request.Answer → Program Services (Option Job)} {answer : request.Answer}
      {next : Shared} (asks : staff.tasks number = some ⟨worker, .ask request resume⟩)
      (answers : Shared.Serves.Answers staff.shared (request.answeredCall? answer) next) :
      Step configuration
        ({ staff with shared := next }.assign number (some ⟨worker, resume answer⟩))
  /-- The next turn of a job. -/
  | goOn {number : Nat} {worker : Option Nat} {job : Job}
      (ready : staff.tasks number = some ⟨worker, .done (some job)⟩) :
      Step configuration (staff.assign number (some ⟨worker, job.turn configuration⟩))
  | finish {number : Nat} {worker : Option Nat}
      (finished : staff.tasks number = some ⟨worker, .done none⟩) :
      Step configuration (staff.assign number none)
  /-- A command, or the one who watches over the workers, is given up. -/
  | giveUp {number : Nat} {program : Program Services (Option Job)}
      (given : staff.tasks number = some ⟨none, program⟩) :
      Step configuration (staff.assign number none)
  /-- The other parts of the instance use what is shared. They can stop the whole instance. -/
  | others {next : Shared} (members_eq : next.members = staff.shared.members)
      (signals : next.signals ⊆ .service :: staff.shared.signals)
      (kept : staff.shared.signals ⊆ next.signals)
      (launched_eq : next.launched.filterMap Job.worker? =
        staff.shared.launched.filterMap Job.worker?) :
      Step configuration { staff with shared := next }

/-- What can come about when the pool is empty at first. -/
inductive Reachable (configuration : Configuration) : Staff → Prop where
  | initial {shared : Shared} (members_eq : shared.members = .empty)
      (signals : ∀ id, .worker id ∉ shared.signals)
      (launched : ∀ job ∈ shared.launched, job.worker? = none) :
      Reachable configuration ⟨shared, [], fun _ => none⟩
  | step {before after : Staff} (reachable : Reachable configuration before)
      (step : Step before configuration after) : Reachable configuration after

variable {configuration : Configuration} {staff after : Staff}

end Staff

namespace PoolTask

variable {shared next : Shared} {hired hired' : List Nat} {task : PoolTask}

/-- Whether a task keeps to its duty. A worker that has left the pool is not a member any more. -/
def Dutiful (task : PoolTask) (shared : Shared) (hired : List Nat) : Prop :=
  ∃ gone, task.program.Keeps (PoolDuty.discipline task.worker) (PoolDuty.Ends task.worker) gone ∧
    ∀ id, task.worker = some id → id ∈ hired ∧ (gone = true → id ∉ shared.members.ids)

/-- A task that serves no worker has to keep to its discipline only. -/
theorem Dutiful.of_keeps {program : Program Services (Option Job)} {gone : Bool}
    (keeps : program.Keeps (PoolDuty.discipline none) (PoolDuty.Ends none) gone) :
    Dutiful ⟨none, program⟩ shared hired := by
  refine ⟨gone, keeps, ?_⟩
  rintro id ⟨⟩

theorem Dutiful.mono (dutiful : task.Dutiful shared hired) (more : hired ⊆ hired')
    (fewer : ∀ id ∈ hired, id ∈ next.members.ids → id ∈ shared.members.ids) :
    task.Dutiful next hired' := by
  rcases dutiful with ⟨gone, keeps, belongs⟩
  refine ⟨gone, keeps, fun id same => ?_⟩
  rcases belongs id same with ⟨member, left⟩
  exact ⟨more member, fun isGone member' => left isGone (fewer id member member')⟩

end PoolTask

namespace Staff

variable {configuration : Configuration} {staff after : Staff} {number : Nat} {next : Shared}

/-- What holds of all that can come about. -/
structure Sound (staff : Staff) : Prop where
  pooled : staff.shared.Pooled staff.hired
  dutiful : ∀ number task, staff.tasks number = some task → task.Dutiful staff.shared staff.hired
  alone : ∀ number other id, staff.worker? number = some id → staff.worker? other = some id →
    number = other
  atWork : ∀ id ∈ staff.hired, id ∈ staff.shared.members.ids →
    ∃ number, staff.worker? number = some id

theorem worker?_assign (staff : Staff) (number : Nat) (task : Option PoolTask) :
    (staff.assign number task).worker? =
      Function.update staff.worker? number (task.bind (·.worker)) := by
  funext other
  by_cases same : other = number
  · subst same
    simp [worker?, assign]
  · simp [worker?, assign, Function.update_of_ne same]

theorem dutiful_assign {tasks : Nat → Option PoolTask} {hired : List Nat} {shared : Shared}
    {task : Option PoolTask}
    (others : ∀ number task, tasks number = some task → task.Dutiful shared hired)
    (own : ∀ given, task = some given → given.Dutiful shared hired) :
    ∀ other given, Function.update tasks number task other = some given →
      given.Dutiful shared hired :=
  (Function.forall_update_iff tasks fun _ found =>
    ∀ given, found = some given → given.Dutiful shared hired).mpr ⟨own, fun other _ => others other⟩

theorem Sound.mem_hired (sound : staff.Sound) {id : Nat} (atWork : staff.worker? number = some id) :
    id ∈ staff.hired := by
  rcases Option.bind_eq_some_iff.mp atWork with ⟨task, found, same⟩
  rcases sound.dutiful number task found with ⟨_, _, belongs⟩
  exact (belongs id same).1

/-- A task goes on. -/
theorem Sound.goOn (sound : staff.Sound) {worker : Option Nat}
    {program program' : Program Services (Option Job)}
    (before : staff.tasks number = some ⟨worker, program⟩) (pooled : next.Pooled staff.hired)
    (fewer : ∀ id ∈ staff.hired, id ∈ next.members.ids → id ∈ staff.shared.members.ids)
    (dutiful : PoolTask.Dutiful ⟨worker, program'⟩ next staff.hired) :
    Sound ({ staff with shared := next }.assign number (some ⟨worker, program'⟩)) := by
  have same : ({ staff with shared := next }.assign number (some ⟨worker, program'⟩)).worker? =
      staff.worker? := by
    rw [worker?_assign]
    apply Function.update_eq_self_iff.mpr
    simp [worker?, before]
  constructor
  case pooled => exact pooled
  case dutiful =>
    apply dutiful_assign
    · intro other task found
      exact (sound.dutiful other task found).mono (fun _ => id) fewer
    · rintro _ ⟨⟩
      exact dutiful
  case alone =>
    rw [same]
    exact sound.alone
  case atWork =>
    rw [same]
    intro id member member'
    exact sound.atWork id member (fewer id member member')

/-- A task begins. -/
theorem Sound.begin (sound : staff.Sound) (idle : staff.tasks number = none) (task : PoolTask)
    {hired : List Nat} (hired_eq : hired = staff.hired ++ task.worker.toList)
    (pooled : next.Pooled hired) (members_eq : next.members = staff.shared.members)
    (keeps : task.program.Keeps (PoolDuty.discipline task.worker) (PoolDuty.Ends task.worker) false)
    (new : ∀ id, task.worker = some id → id ∉ staff.hired) :
    Sound ({ staff with shared := next, hired := hired }.assign number (some task)) := by
  subst hired_eq
  constructor
  case pooled => exact pooled
  case dutiful =>
    apply dutiful_assign
    · intro other task found
      apply (sound.dutiful other task found).mono (List.subset_append_left _ _)
      intro id _ member
      rwa [← members_eq]
    · rintro _ ⟨⟩
      refine ⟨false, keeps, fun id same => ⟨List.mem_append_right _ ?_, nofun⟩⟩
      simp [same]
  case alone =>
    rw [worker?_assign]
    intro first second id atFirst atSecond
    by_cases here : first = number
    · by_cases there : second = number
      · exact here.trans there.symm
      · rw [here, Function.update_self] at atFirst
        rw [Function.update_of_ne there] at atSecond
        exact absurd (sound.mem_hired atSecond) (new id atFirst)
    · rw [Function.update_of_ne here] at atFirst
      by_cases there : second = number
      · rw [there, Function.update_self] at atSecond
        exact absurd (sound.mem_hired atFirst) (new id atSecond)
      · rw [Function.update_of_ne there] at atSecond
        exact sound.alone first second id atFirst atSecond
  case atWork =>
    rw [worker?_assign]
    intro id member member'
    rcases List.mem_append.mp member with old | hires
    · rcases sound.atWork id old (members_eq ▸ member') with ⟨other, atWork⟩
      refine ⟨other, ?_⟩
      rwa [Function.update_of_ne]
      rintro rfl
      simp [worker?, idle] at atWork
    · exact ⟨number, by simpa using hires⟩

/-- A task ends. A worker that is in the pool does not. -/
theorem Sound.drop (sound : staff.Sound) {task : PoolTask} (before : staff.tasks number = some task)
    (gone : ∀ id, task.worker = some id → id ∉ staff.shared.members.ids) :
    (staff.assign number none).Sound := by
  have others {other id : Nat} (found : (staff.assign number none).worker? other = some id) :
      other ≠ number ∧ staff.worker? other = some id := by
    rw [worker?_assign] at found
    by_cases same : other = number
    · rw [same, Function.update_self] at found
      cases found
    · rw [Function.update_of_ne same] at found
      exact ⟨same, found⟩
  constructor
  case pooled => exact sound.pooled
  case dutiful => exact dutiful_assign sound.dutiful nofun
  case alone =>
    intro first second id atFirst atSecond
    exact sound.alone first second id (others atFirst).2 (others atSecond).2
  case atWork =>
    intro id member member'
    rcases sound.atWork id member member' with ⟨other, atWork⟩
    refine ⟨other, ?_⟩
    rw [worker?_assign, Function.update_of_ne]
    · exact atWork
    · rintro rfl
      rw [worker?, before] at atWork
      exact gone id atWork member'

/-- What a call can do to what is shared, as far as the pool is concerned. -/
inductive Affects (shared : Shared) : Option SharedCall → Shared → Prop where
  | nothing {next : Shared} (members_eq : next.members = shared.members)
      (signals_eq : next.signals = shared.signals) (launched_eq : next.launched = shared.launched) :
      Affects shared none next
  | resize (target : Nat) : Affects shared (some (.resize target)) (shared.resize target)
  | leave (id : Nat) :
      Affects shared (some (.leave id)) { shared with members := shared.members.leave id }
  | signal (signal : StopSignal) :
      Affects shared (some (.giveSignal signal)) (shared.giveSignal signal)
  | launch (job : Job) : Affects shared (some (.launch job)) (shared.launch job)

theorem affects_of_answers {shared : Shared} {seen : Option (AnsweredCall Services)}
    (answers : Shared.Serves.Answers shared seen next) :
    Affects shared (seen.bind PoolDuty.of?) next := by
  cases seen with
  | none =>
      cases answers
      exact .nothing rfl rfl rfl
  | some answered =>
      cases answers with
      | @answered _ _ call answer moment served =>
          cases concerned : call.concernsPool with
          | false =>
              rcases Shared.serve_of_unconcerned concerned served with
                ⟨members_eq, signals_eq, launched_eq⟩
              rw [Option.bind_some, PoolDuty.of?, if_neg (by simp [concerned])]
              exact .nothing members_eq signals_eq launched_eq
          | true =>
              rw [Option.bind_some, PoolDuty.of?, if_pos concerned]
              cases call with
              | resize target =>
                  cases served
                  exact .resize target
              | leave id =>
                  cases served
                  exact .leave id
              | giveSignal signal =>
                  cases served
                  exact .signal signal
              | launch job =>
                  cases served
                  exact .launch job
              | _ => cases concerned
      | givenUp => exact .nothing rfl rfl rfl
      | @elsewhere _ call answer outside =>
          have overlooked : PoolDuty.of? ⟨call, answer⟩ = none := by
            cases call with
            | shared call => exact absurd rfl (outside call)
            | _ => rfl
          rw [Option.bind_some, overlooked]
          exact .nothing rfl rfl rfl

/-- What may become of the members: they stay, the pool is sized, or a worker leaves it. -/
def Changes (worker : Option Nat) (shared next : Shared) : Prop :=
  next.members = shared.members ∨ (∃ target, next = shared.resize target) ∨
    ∃ id, worker = some id ∧ next = { shared with members := shared.members.leave id }

theorem Sound.ask (sound : staff.Sound) {worker : Option Nat} {request : Request Services}
    {resume : request.Answer → Program Services (Option Job)} {answer : request.Answer}
    (asks : staff.tasks number = some ⟨worker, .ask request resume⟩)
    (answers : Shared.Serves.Answers staff.shared (request.answeredCall? answer) next) :
    Sound ({ staff with shared := next }.assign number (some ⟨worker, resume answer⟩)) ∧
      Changes worker staff.shared next := by
  rcases sound.dutiful number _ asks with ⟨gone, keeps, belongs⟩
  rcases keeps answer with ⟨gone', passes, keeps⟩
  have pooled := sound.pooled
  have affects : Affects staff.shared
      ((request.answeredCall? answer).bind (PoolDuty.discipline worker).event?) next :=
    affects_of_answers answers
  rw [Discipline.Passes] at passes
  generalize (request.answeredCall? answer).bind (PoolDuty.discipline worker).event? = call
    at affects passes
  cases affects with
  | nothing members_eq signals_eq launched_eq =>
      cases passes
      refine ⟨sound.goOn asks (pooled.congr members_eq ?_ ?_) ?_ ⟨gone, keeps, ?_⟩, .inl members_eq⟩
      · simp [signals_eq]
      · rw [launched_eq]
      · simp [members_eq]
      · rwa [members_eq]
  | resize target =>
      cases passes
      have fewer : ∀ id ∈ staff.hired, id ∈ (staff.shared.resize target).members.ids →
          id ∈ staff.shared.members.ids := by
        intro id member member'
        rw [Shared.members_resize] at member'
        have old := pooled.hired_lt member
        exact List.mem_of_mem_take (Shared.Pooled.mem_take_of_mem_resize old member')
      exact ⟨sound.goOn asks (pooled.resize target) fewer (.of_keeps keeps),
        .inr (.inl ⟨target, rfl⟩)⟩
  | leave id =>
      cases passes
      refine ⟨sound.goOn asks (pooled.leave id) ?_ ⟨true, keeps, ?_⟩, .inr (.inr ⟨id, rfl, rfl⟩)⟩
      · exact fun other _ member => (List.mem_filter.mp member).1
      · rintro _ ⟨⟩
        exact ⟨(belongs id rfl).1, fun _ member => by simp [PoolMembers.leave] at member⟩
  | signal signal =>
      cases passes with
      | signal general =>
          refine ⟨sound.goOn asks (pooled.congr rfl ?_ rfl) (fun _ _ => id) (.of_keeps keeps),
            .inl rfl⟩
          intro id given
          rcases List.mem_cons.mp given with rfl | given
          · simp [StopSignal.sources] at general
          · exact given
  | launch job =>
      cases passes with
      | launch other =>
          refine ⟨sound.goOn asks (pooled.congr rfl (fun _ => id) ?_) (fun _ _ => id)
            (.of_keeps keeps), .inl rfl⟩
          simp [Shared.launch, List.filterMap_append, other]

theorem Sound.takeUp (sound : staff.Sound) {before after : List Job} {job : Job}
    (idle : staff.tasks number = none) (launched : staff.shared.launched = before ++ job :: after)
    (ofPool : job.kind = .worker ∨ job.kind = .monitor) :
    Sound ({ staff with
      shared := { staff.shared with launched := before ++ after },
      hired := staff.hired ++ job.worker?.toList }.assign number
        (some ⟨job.worker?, job.turn configuration⟩)) := by
  rcases sound.pooled with ⟨ascending, below, given, signalled⟩
  have split : staff.shared.launched.filterMap Job.worker? =
      before.filterMap Job.worker? ++ (job.worker?.toList ++ after.filterMap Job.worker?) := by
    rw [launched, List.filterMap_append, List.filterMap_cons]
    cases job.worker? <;> rfl
  have given' : (staff.hired ++ job.worker?.toList ++ (before ++ after).filterMap Job.worker?).Perm
      (List.range staff.shared.members.nextId) := by
    refine List.Perm.trans ?_ given
    rw [split, List.filterMap_append, List.append_assoc]
    apply List.Perm.append_left
    rw [← List.append_assoc, ← List.append_assoc]
    exact List.perm_append_comm.append_right _
  refine sound.begin idle ⟨job.worker?, job.turn configuration⟩ rfl
    ⟨ascending, below, given', signalled⟩ rfl (PoolDuty.keeps_turn configuration ofPool)
    fun id same hired => ?_
  have nodup := given'.nodup_iff.mpr List.nodup_range
  have apart := (List.nodup_append.mp (List.nodup_append.mp nodup).1).2.2
  exact apart id hired id (Option.mem_toList.mpr same) rfl

theorem Sound.step (sound : staff.Sound) (step : Step staff configuration after) : after.Sound := by
  cases step with
  | command idle command =>
      refine sound.begin idle ⟨none, _⟩ (List.append_nil _).symm sound.pooled rfl ?_ nofun
      exact .bind ((command.keeps_program _).mono fun _ _ ended => ended)
  | takeUp idle launched ofPool => exact sound.takeUp idle launched ofPool
  | ask asks answers => exact (sound.ask asks answers).1
  | goOn ready =>
      rcases sound.dutiful _ _ ready with ⟨gone, ⟨rfl, ofPool, rfl⟩, belongs⟩
      exact sound.goOn ready sound.pooled (fun _ _ => id) ⟨false,
        PoolDuty.keeps_turn configuration ofPool, fun id same => ⟨(belongs id same).1, nofun⟩⟩
  | @finish number worker finished =>
      rcases sound.dutiful _ _ finished with ⟨gone, ended, belongs⟩
      refine sound.drop finished fun id same => (belongs id same).2 ?_
      cases same
      exact ended
  | giveUp given => exact sound.drop given nofun
  | others members_eq signals kept launched_eq =>
      have pooled := sound.pooled.congr members_eq (fun id given => by
        simpa using signals given) launched_eq
      refine ⟨pooled, fun number task found => ?_, sound.alone, ?_⟩
      · apply (sound.dutiful number task found).mono (fun _ => id)
        rw [members_eq]
        exact fun _ _ => id
      · rw [members_eq]
        exact sound.atWork

theorem sound_of_reachable (reachable : Reachable configuration staff) : staff.Sound := by
  induction reachable with
  | initial members_eq signals launched =>
      refine ⟨⟨?_, ?_, ?_, ?_⟩, nofun, nofun, nofun⟩
      · simp [members_eq, PoolMembers.empty]
      · simp [members_eq, PoolMembers.empty]
      · rw [members_eq, List.filterMap_eq_nil_iff.mpr launched]
        rfl
      · exact fun id given => absurd given (signals id)
  | step reachable step ih => exact ih.step step

/-- The pool can be sized at any time. -/
theorem Reachable.sized (reachable : Reachable configuration staff)
    (number : Nat) (idle : staff.tasks number = none) (target : Nat) :
    Reachable configuration { staff with shared := staff.shared.resize target } := by
  have asked := reachable.step (.command idle (.resize target))
  have sized := asked.step (.ask (Function.update_self _ _ _) (.answered ⟨0, 0, number, false⟩ rfl))
  have finished := sized.step (.finish (Function.update_self _ _ _))
  simp only [assign, Function.update_idem] at finished
  rwa [← idle, Function.update_eq_self] at finished

/-- What holds of the members of the pool. -/
structure Exact (configuration : Configuration) (staff : Staff) : Prop where
  below : ∀ id ∈ staff.shared.members.ids, id < staff.shared.members.nextId
  /-- Every id below the next one has been given to one worker, which has been taken up or waits for
  it. -/
  given : (staff.hired ++ staff.shared.launched.filterMap Job.worker?).Perm
    (List.range staff.shared.members.nextId)
  alone : ∀ number other id, staff.worker? number = some id → staff.worker? other = some id →
    number = other
  /-- A member is told to stop only with the whole pool. -/
  told : ∀ id ∈ staff.shared.members.ids, (StopSignal.worker id).reachedBy staff.shared.signals =
    StopSignal.pool.reachedBy staff.shared.signals
  /-- A worker that has come to its end is not a member any more. -/
  ended : ∀ id ∈ staff.hired, (∀ number, staff.worker? number ≠ some id) →
    id ∉ staff.shared.members.ids
  sized : ∀ moment target, ∃ next,
    staff.shared.serve moment (.resize target) = .answered staff.shared.members.size next ∧
      staff.shared.Sized target next
  /-- Members come and go when the pool is sized, and when a worker leaves, for itself only. -/
  changes : ∀ after, Step staff configuration after →
    after.shared.members = staff.shared.members ∨
      (∃ target, after.shared = staff.shared.resize target) ∨
      ∃ number id, staff.worker? number = some id ∧ after.shared.signals = staff.shared.signals ∧
        after.shared.members.nextId = staff.shared.members.nextId ∧
        ∀ other, other ∈ after.shared.members.ids ↔
          other ∈ staff.shared.members.ids ∧ other ≠ id

/-- Membership of the pool is exact, and ids are never given twice. -/
theorem membership_exact (reachable : Reachable configuration staff) :
    Exact configuration staff := by
  have sound := sound_of_reachable reachable
  constructor
  case below => exact sound.pooled.below
  case given => exact sound.pooled.given
  case alone => exact sound.alone
  case told => exact fun id => sound.pooled.reachedBy_iff
  case ended =>
    intro id member ended member'
    rcases sound.atWork id member member' with ⟨number, atWork⟩
    exact ended number atWork
  case sized => exact fun moment target => ⟨_, rfl, Shared.sized_resize sound.pooled target⟩
  case changes =>
    intro after step
    cases step with
    | @ask number worker _ _ _ _ asks answers =>
        rcases (sound.ask asks answers).2 with same | sized | ⟨id, rfl, rfl⟩
        · exact .inl same
        · exact .inr (.inl sized)
        · refine .inr (.inr ⟨number, id, ?_, rfl, rfl, fun other => ?_⟩)
          · simp [worker?, asks]
          · simp [assign, PoolMembers.leave]
    | others members_eq => exact .inl members_eq
    | _ => exact .inl rfl

/-- Three workers join the pool, and two of them are told to stop before they begin. -/
theorem membership_exact_sizedTwice :
    let shared := ((Shared.initial 10).resize 3).resize 1
    (∀ id ∈ [0], (StopSignal.worker id).reachedBy shared.signals =
        StopSignal.pool.reachedBy shared.signals) ∧
      (shared.launched.filterMap Job.worker?).Perm (List.range 3) := by
  let configuration : Configuration := ⟨[], "", "", .confirmed, .standard, .node, .reconnect,
    .insert, .standard, .standard, .standard⟩
  have started : Reachable configuration ⟨.initial 10, [], fun _ => none⟩ :=
    .initial rfl (by simp [Shared.initial]) (by simp [Shared.initial])
  have sized := (started.sized 0 rfl 3).sized 0 rfl 1
  exact ⟨(membership_exact sized).told, (membership_exact sized).given⟩

end Staff

end SwapLedger
