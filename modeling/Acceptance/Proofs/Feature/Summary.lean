import Acceptance.Proofs.Feature.Pooled

/-!
# Summaries of runs

A summary has one result for each unit of a run, and shows every failure, only as long as no two units
of a feature have the same key. Instances are identified by their names alone, so where two of them
share a name the one that finishes last hides the other.
-/

namespace Acceptance.FeatureRunner

variable {σ ω : Type}

/-- Features that are run one after another go through one of their courses, and the clock does not go
backwards. -/
theorem ends_of_runSequential? {runner : FeatureRunner σ ω} {features : List Feature} {stop : Bool}
    {state : σ} {runs : FeatureRuns σ}
    (h : runner.runSequential? stop features state = some runs) :
    ∃ acts, (runner.runFeatures stop features).Ends acts (.finished (runs.results, runs.stop)) ∧
      Task.InOrder acts ∧ Task.events acts = runs.events := by
  obtain ⟨acts, hends, hevents, horder, _⟩ := Task.run_ends (runner.runFeatures stop features) 0 state
  refine ⟨acts, ?_⟩
  unfold runSequential? at h
  dsimp only at h
  split at h
  next results stop' hfinished =>
    cases h
    rw [hfinished] at hends
    exact ⟨hends, horder, hevents⟩
  next => cases h

/-- The course of features that are run one after another, and what it tells of their units. -/
theorem exists_course {runner : FeatureRunner σ ω} {features : List Feature} {stop : Bool} {state : σ}
    {runs : FeatureRuns σ} (h : runner.runSequential? stop features state = some runs) :
    ∃ acts reports, Task.events acts = runs.events ∧
      runner.FeaturesCourse stop features acts reports runs.results runs.stop ∧
      runner.AllTold features reports runs.results := by
  obtain ⟨acts, hends, horder, hevents⟩ := ends_of_runSequential? h
  obtain ⟨reports, course⟩ := featuresCourse_of_ends hends
  exact ⟨acts, reports, hevents, course, course.told horder⟩

/-- The summary of a run is faithful to what its units report exactly if no two units of a feature
have the same key. This holds whether features are run one after another or on a pool, and in whatever
order its workers take turns. -/
theorem summary_faithful_iff (runner : FeatureRunner σ ω) (features : List Feature) (stop : Bool)
    (state : σ) :
    (∀ runs, runner.runSequential? stop features state = some runs →
      ∃ acts reports, Task.InOrder acts ∧
        runner.FeaturesCourse stop features acts reports runs.results runs.stop ∧
        runner.AllTold features reports runs.results ∧
        ((Summary.ofResults runs.results).Faithful reports.flatten ↔
          ∀ feature ∈ features, runner.HasDistinctKeys feature)) ∧
    (∀ schedule runs, runner.runScheduled? schedule stop features state = some runs →
      ∃ reports,
        reports = runner.pooledReports (runner.pooledMachine features schedule stop state) 0 features ∧
        runner.AllTold features reports runs.results ∧
        ((Summary.ofResults runs.results).Faithful reports.flatten ↔
          ∀ feature ∈ features, runner.HasDistinctKeys feature)) := by
  constructor
  · intro runs h
    obtain ⟨acts, hends, horder, _⟩ := ends_of_runSequential? h
    obtain ⟨reports, course⟩ := featuresCourse_of_ends hends
    have told := course.told horder
    exact ⟨acts, reports, horder, course, told, told.faithful_iff⟩
  · intro schedule runs h
    have told := allTold_of_runScheduled? h
    exact ⟨_, rfl, told, told.faithful_iff⟩

/-- A runner without definitions whose fallback takes over every step, and fails those that say so. -/
def fragile : FeatureRunner PUnit PUnit where
  suite :=
    { fallback := some fun context =>
        .done (some (.done (if context.text = "it breaks" then .error "broken" else .ok ⟨⟩)))
      newWorld := .done (.done (.ok ⟨⟩)) }
  options := {}
  strategy := .unconditional
  source := none

/-- A feature with two scenarios of the same name. -/
def doors : Feature where
  name := "Doors"
  scenarios :=
    [{ name := "opening", steps := [.when "it breaks"] },
      { name := "opening", steps := [.when "it works"] }]

/-- The failure of the first of two scenarios with the same name is hidden by the second one. -/
theorem doors_unfaithful :
    ∃ runs report, fragile.runSequential? false [doors] ⟨⟩ = some runs ∧
      (fragile.selection doors).instances.map Instance.key =
        [⟨"Doors", "opening"⟩, ⟨"Doors", "opening"⟩] ∧
      (fragile.selection doors).instances.head?.map
        (fun instance_ => ((fragile.run instance_).run 0 ⟨⟩).ending) = some (.finished report) ∧
      Pool.Machine.endsFailed report = true ∧
      (Summary.ofResults runs.results).results.map Record.status = [.passed] ∧
      (Summary.ofResults runs.results).discardedAttempts = 1 ∧
      (Summary.ofResults runs.results).hasFailures = false := by
  refine ⟨_, _, by cbv, by cbv, by cbv, by cbv, by cbv, by cbv, by cbv⟩

end Acceptance.FeatureRunner
