import Mathlib.Data.List.Perm.Basic
import SwapLedger.Shared

/-!
# The size of the pool of workers

Sizing the pool adds workers with the next ids, or tells those with the greatest ids to stop. It
keeps the members as they should be, and so does a worker who leaves.
-/

namespace SwapLedger

/-- Whether a call can change who belongs to the pool, who is told to stop, or what is launched. -/
def SharedCall.concernsPool : SharedCall → Bool
  | .resize _ | .leave _ | .giveSignal _ | .launch _ => true
  | _ => false

/-- The worker that a job is. -/
def Job.worker? : Job → Option Nat
  | .worker id _ => some id
  | _ => none

namespace PoolMembers

variable {members : PoolMembers} {target id : Nat}

/-- Nobody joins a pool that is large enough. -/
theorem joining_of_le (enough : target ≤ members.size) : members.joining target = [] := by
  rw [joining, Nat.sub_eq_zero_of_le enough]
  rfl

/-- Those who join get the ids from the next one up to the one that is next afterwards. -/
theorem mem_joining : id ∈ members.joining target ↔
    members.nextId ≤ id ∧ id < (members.resize target).nextId := by
  simp only [joining, resize, List.mem_map, List.mem_range]
  constructor
  · rintro ⟨offset, below, rfl⟩
    omega
  · rintro ⟨reached, below⟩
    exact ⟨id - members.nextId, by omega, by omega⟩

/-- A pool that is resized has the size that was asked for. -/
theorem size_resize : (members.resize target).size = target := by
  simp only [size, resize, joining, List.length_append, List.length_take, List.length_map,
    List.length_range]
  omega

/-- A pool that is made smaller keeps its first members. -/
theorem ids_resize_of_le (enough : target ≤ members.size) :
    (members.resize target).ids = members.ids.take target := by
  rw [resize, joining_of_le enough, List.append_nil]

/-- A pool that is made larger keeps its members, and those who join come behind them. -/
theorem ids_resize_of_ge (few : members.size ≤ target) :
    (members.resize target).ids = members.ids ++ members.joining target := by
  rw [resize, List.take_of_length_le few]

end PoolMembers

namespace Shared

variable {shared next : Shared} {target : Nat}

theorem foldl_launch (jobs : List Job) : jobs.foldl launch shared = { shared with
    launched := shared.launched ++ jobs,
    running := (jobs.map Job.kind).reverse ++ shared.running } := by
  induction jobs generalizing shared with
  | nil => simp
  | cons job rest ih =>
      rw [List.foldl_cons, ih]
      simp [launch]

theorem members_resize : (shared.resize target).members = shared.members.resize target := by
  rw [resize, foldl_launch]

/-- Just those who leave are told to stop. -/
theorem signals_resize : (shared.resize target).signals =
    (shared.members.leaving target).map .worker ++ shared.signals := by
  rw [resize, foldl_launch]

/-- Just those who join are launched. -/
theorem launched_resize : (shared.resize target).launched =
    shared.launched ++ (shared.members.joining target).map (Job.worker · false) := by
  rw [resize, foldl_launch]

theorem lastProcessed_resize : (shared.resize target).lastProcessed = shared.lastProcessed := by
  rw [resize, foldl_launch]

/-- A call that does not concern the pool leaves it as it is. -/
theorem serve_of_unconcerned {moment : Moment} {call : SharedCall} {answer : call.Answer}
    (unconcerned : call.concernsPool = false)
    (served : shared.serve moment call = .answered answer next) :
    next.members = shared.members ∧ next.signals = shared.signals ∧
      next.launched = shared.launched := by
  cases call with
  | resize | leave | giveSignal | launch => cases unconcerned
  | nextLookup instant =>
      rw [serve, nextLookup] at served
      repeat' split at served
      all_goals cases served
      all_goals exact ⟨rfl, rfl, rfl⟩
  | _ =>
      rw [serve] at served
      repeat' split at served
      all_goals cases served
      all_goals exact ⟨rfl, rfl, rfl⟩

/-- Whether the members of the pool are as they should be, when some workers have been taken up. -/
structure Pooled (shared : Shared) (hired : List Nat) : Prop where
  ascending : shared.members.ids.Pairwise (· < ·)
  below : ∀ id ∈ shared.members.ids, id < shared.members.nextId
  given : (hired ++ shared.launched.filterMap Job.worker?).Perm (List.range shared.members.nextId)
  signalled : ∀ id, .worker id ∈ shared.signals →
    id < shared.members.nextId ∧ id ∉ shared.members.ids

namespace Pooled

variable {hired : List Nat}

/-- The ids that have been given lie below the next one. -/
theorem hired_lt (pooled : shared.Pooled hired) {id : Nat} (member : id ∈ hired) :
    id < shared.members.nextId :=
  List.mem_range.mp (pooled.given.mem_iff.mp (List.mem_append_left _ member))

/-- It only depends on the members, the signals to workers and the launched workers whether a pool
is in order. -/
theorem congr (pooled : shared.Pooled hired) (members_eq : next.members = shared.members)
    (signals : ∀ id, .worker id ∈ next.signals → .worker id ∈ shared.signals)
    (launched_eq : next.launched.filterMap Job.worker? = shared.launched.filterMap Job.worker?) :
    next.Pooled hired := by
  rcases pooled with ⟨ascending, below, given, signalled⟩
  constructor
  case ascending => rwa [members_eq]
  case below => rwa [members_eq]
  case given => rwa [members_eq, launched_eq]
  case signalled =>
    rw [members_eq]
    exact fun id given => signalled id (signals id given)

theorem leave (pooled : shared.Pooled hired) (id : Nat) :
    Pooled { shared with members := shared.members.leave id } hired where
  ascending := pooled.ascending.filter _
  below other member := pooled.below other (List.mem_filter.mp member).1
  given := pooled.given
  signalled other given := by
    rcases pooled.signalled other given with ⟨below, absent⟩
    exact ⟨below, fun member => absent (List.mem_filter.mp member).1⟩

/-- An id below the next one is a member after sizing only if it was one of those that stay. -/
theorem mem_take_of_mem_resize {id : Nat} (old : id < shared.members.nextId)
    (member : id ∈ (shared.members.resize target).ids) : id ∈ shared.members.ids.take target := by
  rcases List.mem_append.mp member with stays | joins
  · exact stays
  · exact absurd old (Nat.not_lt_of_le (PoolMembers.mem_joining.mp joins).1)

/-- Those who stay have smaller ids than those who leave. -/
theorem take_lt_drop (pooled : shared.Pooled hired) {stays leaves : Nat}
    (earlier : stays ∈ shared.members.ids.take target)
    (later : leaves ∈ shared.members.ids.drop target) : stays < leaves := by
  have ordered := pooled.ascending
  rw [← List.take_append_drop target shared.members.ids] at ordered
  exact (List.pairwise_append.mp ordered).2.2 stays earlier leaves later

/-- Those who leave are the members that do not belong to the pool afterwards. -/
theorem mem_leaving (pooled : shared.Pooled hired) {id : Nat} :
    id ∈ shared.members.leaving target ↔
      id ∈ shared.members.ids ∧ id ∉ (shared.members.resize target).ids := by
  constructor
  · intro leaves
    have member := List.mem_of_mem_drop leaves
    refine ⟨member, fun member' => ?_⟩
    have stays := mem_take_of_mem_resize (pooled.below id member) member'
    exact Nat.lt_irrefl _ (pooled.take_lt_drop stays leaves)
  · rintro ⟨member, absent⟩
    rw [← List.take_append_drop target shared.members.ids] at member
    rcases List.mem_append.mp member with stays | leaves
    · exact absurd (List.mem_append_left _ stays) absent
    · exact leaves

/-- A pool is in order after it has been resized. -/
theorem resize (pooled : shared.Pooled hired) (target : Nat) :
    (shared.resize target).Pooled hired := by
  have grown : shared.members.nextId ≤ (shared.members.resize target).nextId := Nat.le_add_right _ _
  constructor
  case ascending =>
    rw [members_resize]
    refine List.pairwise_append.mpr ⟨pooled.ascending.take, ?_, ?_⟩
    · exact List.pairwise_lt_range.map _ fun _ _ less => Nat.add_lt_add_left less _
    · intro id member other joins
      have old := pooled.below id (List.mem_of_mem_take member)
      exact Nat.lt_of_lt_of_le old (PoolMembers.mem_joining.mp joins).1
  case below =>
    rw [members_resize]
    intro id member
    rcases List.mem_append.mp member with stays | joins
    · exact Nat.lt_of_lt_of_le (pooled.below id (List.mem_of_mem_take stays)) grown
    · exact (PoolMembers.mem_joining.mp joins).2
  case given =>
    have hires : ((shared.members.joining target).map (Job.worker · false)).filterMap Job.worker? =
        shared.members.joining target := by
      simp [List.filterMap_map, Function.comp_def, Job.worker?]
    rw [launched_resize, members_resize, List.filterMap_append, hires, ← List.append_assoc,
      PoolMembers.resize, List.range_add]
    exact pooled.given.append_right _
  case signalled =>
    rw [signals_resize, members_resize]
    intro id given
    rcases List.mem_append.mp given with told | given
    · rcases List.mem_map.mp told with ⟨_, leaves, same⟩
      cases same
      rcases pooled.mem_leaving.mp leaves with ⟨member, absent⟩
      exact ⟨Nat.lt_of_lt_of_le (pooled.below id member) grown, absent⟩
    · rcases pooled.signalled id given with ⟨old, apart⟩
      refine ⟨Nat.lt_of_lt_of_le old grown, fun member => apart ?_⟩
      exact List.mem_of_mem_take (mem_take_of_mem_resize old member)

/-- Members are told to stop by what tells the whole pool to, and by nothing else. -/
theorem reachedBy_iff (pooled : shared.Pooled hired) {id : Nat} (member : id ∈ shared.members.ids) :
    (StopSignal.worker id).reachedBy shared.signals = StopSignal.pool.reachedBy shared.signals := by
  have alone : shared.signals.contains (.worker id) = false := by
    simpa using fun given => (pooled.signalled id given).2 member
  rw [StopSignal.reachedBy, StopSignal.sources, List.any_cons, alone, Bool.false_or]
  rfl

end Pooled

/-- Whether a pool has been sized: it grows by the next ids and keeps all members, or keeps the
members with the lowest ids and tells the others to stop. -/
structure Sized (shared : Shared) (target : Nat) (next : Shared) : Prop where
  size_eq : next.members.size = target
  grown : shared.members.size ≤ target →
    let joining := List.range' shared.members.nextId (target - shared.members.size)
    next.members.ids = shared.members.ids ++ joining ∧
      next.launched = shared.launched ++ joining.map (Job.worker · false)
  shrunk : target ≤ shared.members.size →
    next.members.ids = shared.members.ids.take target ∧ next.launched = shared.launched ∧
      ∀ stays ∈ next.members.ids, ∀ leaves ∈ shared.members.ids, leaves ∉ next.members.ids →
        stays < leaves
  told : ∀ id, (StopSignal.worker id).reachedBy next.signals = true ↔
    (StopSignal.worker id).reachedBy shared.signals = true ∨
      id ∈ shared.members.ids ∧ id ∉ next.members.ids

/-- Resizing a pool changes its members as the size that is asked for demands. -/
theorem sized_resize {hired : List Nat} (pooled : shared.Pooled hired) (target : Nat) :
    Sized shared target (shared.resize target) := by
  constructor
  · rw [members_resize, PoolMembers.size_resize]
  · intro few
    rw [members_resize, launched_resize, PoolMembers.ids_resize_of_ge few,
      PoolMembers.joining, List.range'_eq_map_range]
    exact ⟨rfl, rfl⟩
  · intro enough
    rw [members_resize, launched_resize, PoolMembers.ids_resize_of_le enough,
      PoolMembers.joining_of_le enough]
    refine ⟨rfl, List.append_nil _, fun stays member leaves member' absent => ?_⟩
    rw [← List.take_append_drop target shared.members.ids] at member'
    exact pooled.take_lt_drop member ((List.mem_append.mp member').resolve_left absent)
  · intro id
    rw [members_resize, signals_resize, ← pooled.mem_leaving]
    simp only [StopSignal.reachedBy, StopSignal.sources, List.any_cons, List.any_nil,
      List.contains_eq_mem, List.mem_append, List.mem_map, StopSignal.worker.injEq, reduceCtorEq,
      exists_eq_right, and_false, exists_const, false_or, Bool.or_false, Bool.or_eq_true,
      decide_eq_true_eq]
    tauto

end Shared

end SwapLedger
