import Mathlib.Data.List.Perm.Basic
import SwapLedger.ScalingTable

/-!
# Which step of a scaling table decides

The steps are sorted by their thresholds, and the first one that is exceeded decides. This is a step
with the greatest threshold below the depth, and of several such steps the one that is listed first;
so the order in which steps are listed matters only where thresholds are equal, and workers that
grow with the thresholds grow with the depth.
-/

namespace SwapLedger

/-- The size that a step asks for. -/
def ScalingStep.target (step : ScalingStep) : PoolTarget := ⟨step.workers.toNat, step.prefetch⟩

namespace ScalingTable

/-- Whether a step decides at a depth: the depth exceeds its threshold, but no greater one of the
table, and no step with the same threshold is listed before it. -/
structure Decides (table : ScalingTable) (depth : UInt64) (step : ScalingStep) : Prop where
  exceeded : step.minDepth < depth
  greatest : ∀ other ∈ table.steps, other.minDepth < depth → other.minDepth ≤ step.minDepth
  first : table.steps.find? (·.minDepth == step.minDepth) = some step

/-- Whether a depth exceeds no threshold. -/
def Shallow (table : ScalingTable) (depth : UInt64) : Prop :=
  ∀ step ∈ table.steps, depth ≤ step.minDepth

variable {table : ScalingTable} {depth : UInt64} {step : ScalingStep}

theorem Decides.mem (decides : table.Decides depth step) : step ∈ table.steps :=
  List.mem_of_find?_eq_some decides.first

/-- Deeper thresholds come first, as the sorting sees it. -/
theorem descending_trans (first second third : ScalingStep)
    (before : decide (second.minDepth ≤ first.minDepth) = true)
    (after : decide (third.minDepth ≤ second.minDepth) = true) :
    decide (third.minDepth ≤ first.minDepth) = true :=
  decide_eq_true (UInt64.le_trans (of_decide_eq_true after) (of_decide_eq_true before))

theorem descending_total (first second : ScalingStep) :
    (decide (second.minDepth ≤ first.minDepth) || decide (first.minDepth ≤ second.minDepth)) =
      true := by
  simpa using UInt64.le_total second.minDepth first.minDepth

theorem pairwise_descending :
    table.descending.Pairwise fun first second => second.minDepth ≤ first.minDepth := by
  simpa [descending] using
    List.pairwise_mergeSort descending_trans descending_total table.steps

/-- Sorting leaves steps with equal thresholds in order. -/
theorem find?_descending (threshold : UInt64) :
    table.descending.find? (·.minDepth == threshold) =
      table.steps.find? (·.minDepth == threshold) := by
  have level : (table.steps.filter (·.minDepth == threshold)).Pairwise fun first second =>
      decide (second.minDepth ≤ first.minDepth) = true := by
    refine List.pairwise_of_forall_mem_list fun first isFirst second isSecond => ?_
    have same := (List.mem_filter.mp isFirst).2
    have same' := (List.mem_filter.mp isSecond).2
    rw [beq_iff_eq] at same same'
    exact decide_eq_true (UInt64.le_of_eq (same'.trans same.symm))
  have kept := (List.sublist_mergeSort descending_trans descending_total level
    List.filter_sublist).filter (·.minDepth == threshold)
  have perm := (List.mergeSort_perm table.steps fun first second : ScalingStep =>
    decide (second.minDepth ≤ first.minDepth)).filter (·.minDepth == threshold)
  simp only [List.filter_filter, Bool.and_self] at kept
  rw [← List.head?_filter, ← List.head?_filter, descending,
    ← kept.eq_of_length perm.length_eq.symm]

/-- The first step in the sorted table that is exceeded decides. -/
theorem decides_of_find? (found : table.descending.find? (·.minDepth < depth) = some step) :
    table.Decides depth step := by
  rcases List.find?_eq_some_iff_append.mp found with ⟨exceeded, before, after, split, unexceeded⟩
  rw [decide_eq_true_eq] at exceeded
  have passedOver : ∀ other ∈ before, depth ≤ other.minDepth := by
    intro other member
    simpa using unexceeded other member
  refine ⟨exceeded, ?_, ?_⟩
  · intro other member below
    have sorted := @pairwise_descending table
    rw [← List.mem_mergeSort, ← descending, split] at member
    rw [split] at sorted
    rcases List.mem_append.mp member with early | late
    · exact absurd (passedOver other early) (UInt64.not_le.mpr below)
    · rcases List.mem_cons.mp late with rfl | late
      · exact UInt64.le_refl _
      · exact (List.pairwise_cons.mp (List.pairwise_append.mp sorted).2.1).1 other late
  · rw [← find?_descending]
    refine List.find?_eq_some_iff_append.mpr ⟨by simp, before, after, split, fun other early => ?_⟩
    have beyond := UInt64.lt_of_lt_of_le exceeded (passedOver other early)
    simpa using (UInt64.ne_of_lt beyond).symm

/-- Either some step decides, or the depth is a shallow one. -/
theorem decides_or_shallow (table : ScalingTable) (depth : UInt64) :
    (∃ step, table.Decides depth step ∧ table.targetFor depth = step.target) ∨
      table.Shallow depth ∧ table.targetFor depth = table.baseline := by
  cases found : table.descending.find? (·.minDepth < depth) with
  | some step =>
      refine .inl ⟨step, decides_of_find? found, ?_⟩
      rw [targetFor, found]
      rfl
  | none =>
      refine .inr ⟨?_, ?_⟩
      · intro step member
        simpa using List.find?_eq_none.mp found step (List.mem_mergeSort.mpr member)
      · rw [targetFor, found]

theorem Decides.unique (decides : table.Decides depth step) {other : ScalingStep}
    (decides' : table.Decides depth other) : other = step := by
  have same : other.minDepth = step.minDepth :=
    UInt64.le_antisymm (decides.greatest other decides'.mem decides'.exceeded)
      (decides'.greatest step decides.mem decides.exceeded)
  have first := decides'.first
  rw [same, decides.first, Option.some.injEq] at first
  exact first.symm

theorem Decides.not_shallow (decides : table.Decides depth step) : ¬ table.Shallow depth :=
  fun shallow => UInt64.not_le.mpr decides.exceeded (shallow step decides.mem)

theorem Decides.targetFor_eq (decides : table.Decides depth step) :
    table.targetFor depth = step.target := by
  rcases decides_or_shallow table depth with ⟨other, decides', target⟩ | ⟨shallow, _⟩
  · rw [target, decides.unique decides']
  · exact absurd shallow decides.not_shallow

theorem Shallow.targetFor_eq (shallow : table.Shallow depth) :
    table.targetFor depth = table.baseline := by
  rcases decides_or_shallow table depth with ⟨step, decides, _⟩ | ⟨_, target⟩
  · exact absurd shallow decides.not_shallow
  · exact target

/-- Where no two thresholds are equal, it does not matter in which order the steps are listed. -/
theorem Decides.perm (decides : table.Decides depth step) {steps : List ScalingStep}
    (perm : steps.Perm table.steps) (distinct : (table.steps.map (·.minDepth)).Nodup) :
    Decides { table with steps := steps } depth step := by
  refine ⟨decides.exceeded, fun other member => decides.greatest other (perm.mem_iff.mp member), ?_⟩
  have distinct' := (perm.map (·.minDepth)).nodup_iff.mpr distinct
  rcases List.append_of_mem (perm.mem_iff.mpr decides.mem) with ⟨before, after, rfl⟩
  refine List.find?_eq_some_iff_append.mpr ⟨by simp, before, after, rfl, fun other early => ?_⟩
  rw [List.map_append, List.map_cons, List.nodup_append] at distinct'
  simpa using distinct'.2.2 _ (List.mem_map_of_mem early) _ List.mem_cons_self

theorem targetFor_perm {steps : List ScalingStep} (perm : steps.Perm table.steps)
    (distinct : (table.steps.map (·.minDepth)).Nodup) (depth : UInt64) :
    targetFor { table with steps := steps } depth = table.targetFor depth := by
  rcases decides_or_shallow table depth with ⟨step, decides, target⟩ | ⟨shallow, target⟩
  · rw [target, (decides.perm perm distinct).targetFor_eq]
  · have shallow' : Shallow { table with steps := steps } depth :=
      fun step member => shallow step (perm.mem_iff.mp member)
    rw [target, shallow'.targetFor_eq]
    rfl

/-- Whether steps with greater thresholds have at least as many workers, and no step fewer than the
baseline. -/
structure Growing (table : ScalingTable) : Prop where
  steps : ∀ lower ∈ table.steps, ∀ upper ∈ table.steps, lower.minDepth < upper.minDepth →
    lower.workers ≤ upper.workers
  baseline : ∀ step ∈ table.steps, table.baselineWorkers ≤ step.workers

/-- Deeper queues get no smaller targets from a growing table. Of steps with one threshold the same
is listed first. -/
theorem Growing.targetFor_mono (growing : table.Growing) {shallow deep : UInt64}
    (deeper : shallow ≤ deep) :
    (table.targetFor shallow).workers ≤ (table.targetFor deep).workers := by
  rcases decides_or_shallow table deep with ⟨upper, decides, target⟩ | ⟨unexceeded, target⟩
  · rw [target]
    rcases decides_or_shallow table shallow with ⟨lower, decides', target'⟩ | ⟨_, target'⟩
    · rw [target']
      have reached := decides.greatest lower decides'.mem
        (UInt64.lt_of_lt_of_le decides'.exceeded deeper)
      rcases UInt64.lt_or_eq_of_le reached with below | same
      · exact UInt64.le_iff_toNat_le.mp (growing.steps lower decides'.mem upper decides.mem below)
      · have first := decides'.first
        rw [same, decides.first, Option.some.injEq] at first
        exact Nat.le_of_eq (congrArg (·.target.workers) first.symm)
    · rw [target']
      exact UInt64.le_iff_toNat_le.mp (growing.baseline upper decides.mem)
  · have unexceeded' : table.Shallow shallow :=
      fun step member => UInt64.le_trans deeper (unexceeded step member)
    exact Nat.le_of_eq (congrArg (·.workers) (unexceeded'.targetFor_eq.trans target.symm))

/-- How the sizes of a table depend on the depth and on the steps. -/
structure Scales (table : ScalingTable) : Prop where
  decided (depth : UInt64) :
    (∃ step, table.Decides depth step ∧ table.targetFor depth = step.target) ∨
      table.Shallow depth ∧ table.targetFor depth = table.baseline
  reordered {steps : List ScalingStep} (perm : steps.Perm table.steps)
    (distinct : (table.steps.map (·.minDepth)).Nodup) (depth : UInt64) :
    targetFor { table with steps := steps } depth = table.targetFor depth
  growing (growing : table.Growing) {shallow deep : UInt64} (deeper : shallow ≤ deep) :
    (table.targetFor shallow).workers ≤ (table.targetFor deep).workers

/-- The step with the greatest threshold that is exceeded decides, the first one of several, or else
the baseline; the order of steps with distinct thresholds does not matter, and growing steps let the
workers grow with the depth. -/
theorem targetFor_scales (table : ScalingTable) : table.Scales :=
  ⟨decides_or_shallow table, targetFor_perm, Growing.targetFor_mono⟩

theorem growing_standard : standard.Growing := ⟨by decide, by decide⟩

/-- The sizes that are used where none are configured grow with the depth. -/
theorem targetFor_scales_standard : standard.Growing ∧ ∀ shallow deep : UInt64, shallow ≤ deep →
    (standard.targetFor shallow).workers ≤ (standard.targetFor deep).workers :=
  ⟨growing_standard, fun _ _ => (targetFor_scales standard).growing growing_standard⟩

/-- Of two steps with the greatest threshold below the depth, the first one decides. -/
example : targetFor ⟨1, 1, 10, [⟨5, 2, 2⟩, ⟨7, 3, 3⟩, ⟨7, 4, 4⟩, ⟨9, 5, 5⟩]⟩ 9 = ⟨3, 3⟩ := by cbv

end ScalingTable

end SwapLedger
