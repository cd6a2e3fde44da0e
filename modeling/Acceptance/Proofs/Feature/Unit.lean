import Acceptance.Proofs.Feature.Sequential
import Acceptance.Proofs.Pool.Report
import Acceptance.Proofs.Scenario.Agreement

/-!
# Units of features on a pool

What the units of a pool are when it runs features, and what each of them reports: an instance runs
its scenario or is refused, and then notes its end in the slot of its feature.
-/

namespace Acceptance

open Aggregate (IsReport)

variable {σ ω : Type}

namespace FeatureRunner

variable (runner : FeatureRunner σ ω)

/-- No hooks around features with something to run ever meet with a mishap. -/
structure HooksAvoid (features : List Feature) (mishap : Task.Mishap) : Prop where
  before : ∀ feature ∈ features, runner.scheduled feature ≠ [] →
    (runner.beforeFeature feature).Avoids mishap
  after : ∀ feature ∈ features, runner.scheduled feature ≠ [] →
    ∀ failed, (runner.afterFeature feature failed).Avoids mishap

/-- Hooks that are answered meet with no mishap around features. -/
theorem hooksAvoid_of_answered {runner : FeatureRunner σ ω}
    (h : ∀ hook ∈ runner.suite.hooks.entries, ∀ context, (hook.action.alone context).IsAnswered)
    (features : List Feature) (mishap : Task.Mishap) : runner.HooksAvoid features mishap where
  before _ _ _ :=
    .bind (Suite.avoids_runHooks (fun hook hmem =>
      Suite.avoids_callAlone (h hook (Suite.mem_of_mem_hooksFor hmem) _)) _) fun _ => Task.avoids_done _
  after _ _ _ _ :=
    .bind (Suite.avoids_runAllHooks (fun hook hmem =>
      Suite.avoids_callAlone (h hook (Suite.mem_of_mem_hooksFor hmem) _)) _) fun _ => Task.avoids_done _

/-! ## What a unit does -/

/-- What an instance reports, given whether a hook before its feature failed. -/
def reportOf (instance_ : Instance) : Option HookError → Task σ Event (List Record)
  | none => runner.run instance_
  | some error => Task.now.bind fun now => .done [.failed instance_ (.featureHook error) now]

/-- How a unit goes on when its records are known. -/
def endWith (feature : Feature) (index : Nat) (records : List Record) :
    Task (σ × List Slot) Event (List Record) :=
  (runner.endUnit feature index (Pool.Machine.endsFailed records)).bind fun _ => .done records

variable {runner} {feature : Feature} {index : Nat} {instance_ : Instance}
  {refused : Option HookError}

theorem runUnit_eq (feature : Feature) (index : Nat) (instance_ : Instance)
    (refused : Option HookError) :
    runner.runUnit feature index instance_ refused =
      (runner.reportOf instance_ refused).onFirst.bind (runner.endWith feature index) := by
  cases refused <;> rfl

/-- A unit that has told its records meets with no mishap but those of the hooks after its feature. -/
theorem avoids_endWith {mishap : Task.Mishap}
    (hafter : ∀ failed, (runner.afterFeature feature failed).Avoids mishap) (index : Nat)
    (records : List Record) : (runner.endWith feature index records).Avoids mishap := by
  refine .bind (.bind (Task.avoids_modify _) fun _ =>
    .bind (.bind Task.avoids_get fun _ => Task.avoids_done _) fun slot => ?_) fun _ => Task.avoids_done _
  split
  · refine (Task.avoids_modify _).bind fun _ => ?_
    exact (hafter _).onFirst.bind fun _ => Task.avoids_modify _
  · exact Task.avoids_done _

/-- A unit meets with no mishap but those of its scenario and of the hooks after its feature. -/
theorem avoids_runUnit {mishap : Task.Mishap}
    (hrun : refused = none → (runner.run instance_).Avoids mishap)
    (hafter : ∀ failed, (runner.afterFeature feature failed).Avoids mishap) :
    (runner.runUnit feature index instance_ refused).Avoids mishap := by
  rw [runUnit_eq]
  refine Task.Avoids.bind (.onFirst ?_) fun records => avoids_endWith hafter index records
  cases refused with
  | none => exact hrun rfl
  | some error => exact Task.avoids_now.bind fun _ => Task.avoids_done _

/-- The records that a unit ends with are those of its instance. -/
theorem reportOf_of_ends {acts : List (Task.Act (σ × List Slot) Event)} {records : List Record}
    (h : (runner.runUnit feature index instance_ refused).Ends acts (.finished records)) :
    ∃ own, (runner.reportOf instance_ refused).Ends own (.finished records) ∧
      (Task.times own).Sublist (Task.times acts) := by
  rw [runUnit_eq] at h
  obtain ⟨told, before, after, rfl, htold, hend⟩ := Task.ends_bind_finished.mp h
  obtain ⟨_, _, _, rfl, _, hdone⟩ := Task.ends_bind_finished.mp hend
  cases (Task.ends_done.mp hdone).2
  obtain ⟨own, hown, _, htimes⟩ := htold.of_onFirst
  refine ⟨own, hown, ?_⟩
  rw [htimes, Task.times_append]
  exact List.sublist_append_left _ _

/-- Where no hook after its feature crashes a unit crashes only where its instance is run, and the run
crashes. -/
theorem crashed_of_ends {acts : List (Task.Act (σ × List Slot) Event)} {panic : Panic}
    (hafter : ∀ failed, (runner.afterFeature feature failed).Avoids .crash)
    (h : (runner.runUnit feature index instance_ refused).Ends acts (.crashed panic)) :
    refused = none ∧ ∃ own, (runner.run instance_).Ends own (.crashed panic) := by
  rw [runUnit_eq] at h
  obtain ⟨told, before, after, rfl, _, hend⟩ | ⟨_, heq, hcut⟩ | ⟨heq, _⟩ := Task.ends_bind.mp h
  · exact absurd rfl (avoids_endWith hafter index told after _ hend)
  · cases heq
    obtain ⟨own, hown, _⟩ := hcut.of_onFirst
    cases refused with
    | none => exact ⟨rfl, own, hown⟩
    | some error =>
        obtain ⟨now, later, _, hlater⟩ := Task.ends_clock.mp hown
        cases (Task.ends_done.mp hlater).2
  · cases heq

theorem isReport_of_reportOf {acts : List (Task.Act σ Event)} {records : List Record}
    (h : (runner.reportOf instance_ refused).Ends acts (.finished records))
    (horder : Task.InOrder acts) : IsReport instance_.key records := by
  cases refused with
  | none => exact ScenarioRunner.isReport_of_ends h horder
  | some error =>
      obtain ⟨now, later, _, hlater⟩ := Task.ends_clock.mp h
      cases (Task.ends_done.mp hlater).2
      exact Aggregate.isReport_singleton rfl

/-! ## The plan of a pool -/

variable {features : List Feature}

/-- A feature as it is selected before a pool starts. -/
def selected (runner : FeatureRunner σ ω) (feature : Feature) : Selected :=
  ⟨feature, runner.resultOf 0 feature [] [], runner.scheduled feature⟩

/-- The job of an instance of a feature. -/
def jobOf (runner : FeatureRunner σ ω) (feature : Feature) (index : Nat) (instance_ : Instance) :
    Pool.Job (σ × List Slot) (Option HookError) where
  instance_ := instance_
  gate := some index
  body := fun opened => runner.runUnit feature index instance_ opened.join

theorem selectAll_eq (features : List Feature) :
    runner.selectAll features = features.map runner.selected := by
  simp [selectAll, selected, select_eq]

/-- The gate of a job is made of the hooks before its feature. -/
theorem gate_eq {task : Task (σ × List Slot) Event (Option HookError)}
    (hfeature : features[index]? = some feature)
    (htask : ((runner.selectAll features).map fun selected =>
      (runner.beforeFeature selected.feature).onFirst)[index]? = some task) :
    task = (runner.beforeFeature feature).onFirst := by
  simpa [selectAll_eq, hfeature, selected, eq_comm] using htask

/-- The jobs of some features, counted from an index on. -/
def jobsFrom (runner : FeatureRunner σ ω) (index : Nat) :
    List Feature → List (Pool.Job (σ × List Slot) (Option HookError))
  | [] => []
  | feature :: rest =>
    (runner.scheduled feature).map (runner.jobOf feature index) ++ runner.jobsFrom (index + 1) rest

theorem jobs_pooledPlan (features : List Feature) :
    (runner.pooledPlan (runner.selectAll features)).jobs = runner.jobsFrom 0 features := by
  -- The index of the first feature is arbitrary, for the induction.
  have hfrom (index : Nat) : ((features.map runner.selected).mapIdx fun i =>
      runner.jobsOf (i + index)).flatten = runner.jobsFrom index features := by
    induction features generalizing index with
    | nil => rfl
    | cons feature rest ih =>
        rw [List.map_cons, List.mapIdx_cons, List.flatten_cons, Nat.zero_add, jobsFrom, ← ih]
        simp only [Nat.add_right_comm]
        rfl
  rw [pooledPlan, selectAll_eq]
  exact hfrom 0

theorem mem_jobsFrom {first : Nat} {job : Pool.Job (σ × List Slot) (Option HookError)}
    (h : job ∈ runner.jobsFrom first features) :
    ∃ offset feature, ∃ instance_ ∈ runner.scheduled feature, features[offset]? = some feature ∧
      job = runner.jobOf feature (first + offset) instance_ := by
  induction features generalizing first with
  | nil => cases h
  | cons feature rest ih =>
      rcases List.mem_append.mp h with h | h
      · obtain ⟨instance_, hmem, rfl⟩ := List.mem_map.mp h
        exact ⟨0, feature, instance_, hmem, rfl, rfl⟩
      · obtain ⟨offset, found, instance_, hmem, hfound, rfl⟩ := ih h
        refine ⟨offset + 1, found, instance_, hmem, hfound, ?_⟩
        rw [Nat.add_assoc, Nat.add_comm 1]

end FeatureRunner

end Acceptance
