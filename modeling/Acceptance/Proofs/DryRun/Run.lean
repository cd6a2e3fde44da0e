import Acceptance.Proofs.DryRun.Scenario
import Acceptance.Proofs.Feature.Fate
import Acceptance.Proofs.Pool.Progress

/-!
# Plans and runs

The plan of a dry run lists what a run reports: as long as no two units of a feature have the same key,
there is one planned scenario for each final record, in the same order, and it tells the key, the steps,
whether the template could be expanded, and which steps have no definition. A run that is dry itself
reports the same without calling anything.
-/

namespace Acceptance

open DryRun

variable {σ ω : Type}

namespace FeatureRunner

variable (runner : FeatureRunner σ ω)

/-- The plan of the features that a runner would run. -/
def dryPlan (features : List Feature) : DryRun.Plan :=
  .ofFeatures runner.suite.definitions runner.options runner.source features

/-- The plan of a feature tells what each of its units reports, in all attempts. -/
def TellsReports (planned : FeaturePlan) (reports : List (List Record)) : Prop :=
  List.Forall₂
    (fun scenario report => ∀ record ∈ report, Foretells runner.toScenarioRunner scenario record)
    planned.scenarios reports

/-- The plan of a feature tells its final records, one by one. -/
def TellsResult (planned : FeaturePlan) (result : FeatureResult) : Prop :=
  List.Forall₂ (Foretells runner.toScenarioRunner) planned.scenarios result.aggregate.records

/-- A plan tells what a run reports, feature by feature and in its summary. -/
structure RunAgrees (plan : DryRun.Plan) (reports : List (List (List Record)))
    (results : List FeatureResult) : Prop where
  units : List.Forall₂ runner.TellsReports plan.features reports
  features : List.Forall₂ runner.TellsResult plan.features results
  summary : List.Forall₂ (Foretells runner.toScenarioRunner)
    (plan.features.flatMap FeaturePlan.scenarios) (Summary.ofResults results).results

variable {runner} {feature : Feature} {features : List Feature}

/-! ## Plans of features -/

/-- The report of an instance tells what is planned for it, unless the run is dry. -/
theorem isFateful_foretells :
    runner.IsFateful fun instance_ report => runner.options.dryRun = false → ∀ record ∈ report,
      Foretells runner.toScenarioRunner (planScenario runner.suite.definitions none instance_) record where
  skipped := by
    intro instance_ now _
    rw [List.forall_mem_singleton]
    exact ScenarioRunner.foretells_ofAttempt (by simp) fun _ _ => rfl
  refused := by
    intro instance_ error now hdry
    rw [List.forall_mem_singleton]
    exact ScenarioRunner.foretells_ofAttempt (by simp) fun h => by cases hdry.symm.trans h
  crashed := by
    intro instance_ message now hdry
    rw [List.forall_mem_singleton]
    exact ScenarioRunner.foretells_ofAttempt (by simp) fun h => by cases hdry.symm.trans h
  ran := fun _ _ _ h => ScenarioRunner.foretells_of_ends h

theorem foretells_failedTemplate (now : Nat) (template : Instance × ExamplesError) :
    Foretells runner.toScenarioRunner
      (planScenario runner.suite.definitions (some template.2.toText) template.1)
      (failedTemplate now template) :=
  ScenarioRunner.foretells_ofAttempt (by simp) nofun

theorem foretells_skipped (now : Nat) (instance_ : Instance) :
    Foretells runner.toScenarioRunner (planScenario runner.suite.definitions none instance_)
      (.skipped instance_ now) :=
  ScenarioRunner.foretells_ofAttempt (by simp) fun _ _ => rfl

theorem forall₂_singletons {α : Type} {planOf : α → ScenarioPlan} {recordOf : α → Record}
    (h : ∀ item, Foretells runner.toScenarioRunner (planOf item) (recordOf item)) (items : List α) :
    List.Forall₂
      (fun scenario report => ∀ record ∈ report, Foretells runner.toScenarioRunner scenario record)
      (items.map planOf) ((items.map recordOf).map fun record => [record]) := by
  rw [List.map_map, List.forall₂_map_left_iff, List.forall₂_map_right_iff, List.forall₂_same]
  intro item _
  exact List.forall_mem_singleton.mpr (h item)

theorem tellsReports_of_scheduled {reports : List (List Record)}
    (h : runner.Scheduled
      (fun instance_ report => runner.options.dryRun = false → ∀ record ∈ report,
        Foretells runner.toScenarioRunner (planScenario runner.suite.definitions none instance_) record)
      feature reports) :
    runner.TellsReports (planFeature runner.suite.definitions runner.options runner.source feature)
      reports := by
  obtain ⟨now, told, rfl, htold⟩ := h
  rw [unitReports, known, List.map_append, List.append_assoc]
  refine List.rel_append (forall₂_singletons (foretells_failedTemplate now) _) ?_
  cases hdry : runner.options.dryRun with
  | true =>
      -- Nothing is scheduled: the instances are known to be skipped before the run.
      rw [scheduled, if_pos hdry] at htold
      cases htold
      rw [List.append_nil]
      exact forall₂_singletons (foretells_skipped now) _
  | false =>
      rw [scheduled, if_neg (by simp [hdry])] at htold
      rw [List.forall₂_map_left_iff]
      exact htold.imp fun _ _ h => h hdry

/-! ## Final records -/

theorem Told.tellsResult {planned : FeaturePlan} {reports : List (List Record)} {result : FeatureResult}
    (told : runner.Told feature reports result) (hdistinct : runner.HasDistinctKeys feature)
    (h : runner.TellsReports planned reports) : runner.TellsResult planned result := by
  rw [TellsResult, told.aggregate_eq hdistinct]
  apply forall₂_filterMap_getLast? h
  intro report hreport
  obtain ⟨i, hi, rfl⟩ := List.getElem_of_mem hreport
  have hkey : i < (runner.unitKeys feature).length := told.units.length_eq ▸ hi
  exact (List.Forall₂.get told.units hkey hi).nonempty

/-- Where all reports are told by the plan, so are the results, and their summary. -/
theorem AllTold.runAgrees {reports : List (List (List Record))} {results : List FeatureResult}
    (told : runner.AllTold features reports results)
    (hdistinct : ∀ feature ∈ features, runner.HasDistinctKeys feature)
    (h : List.Forall₂ runner.TellsReports (runner.dryPlan features).features reports) :
    runner.RunAgrees (runner.dryPlan features) reports results := by
  have hresults : List.Forall₂ runner.TellsResult (runner.dryPlan features).features results := by
    induction told with
    | nil => exact .nil
    | cons told _ ih =>
        obtain ⟨hfirst, hlater⟩ := List.forall_mem_cons.mp hdistinct
        obtain ⟨hreports, hrest⟩ := List.forall₂_cons.mp h
        exact .cons (told.tellsResult hfirst hreports) (ih hlater hrest)
  refine ⟨h, hresults, ?_⟩
  rw [Summary.results_ofResults]
  exact List.rel_flatMap hresults fun _ _ h => h

theorem tellsReports_dryPlan {reports : List (List (List Record))}
    (h : List.Forall₂
      (runner.Scheduled fun instance_ report => runner.options.dryRun = false → ∀ record ∈ report,
        Foretells runner.toScenarioRunner (planScenario runner.suite.definitions none instance_) record)
      features reports) :
    List.Forall₂ runner.TellsReports (runner.dryPlan features).features reports := by
  rw [dryPlan, DryRun.Plan.ofFeatures, List.forall₂_map_left_iff]
  exact h.imp fun _ _ => tellsReports_of_scheduled

/-! ## Dry runs -/

section Dry

variable {stop : Bool} {state : σ} (hdry : runner.options.dryRun = true)

include hdry

theorem scheduled_of_dryRun (feature : Feature) : runner.scheduled feature = [] := by
  rw [scheduled, if_pos hdry]

theorem runFeature_of_dryRun (stop : Bool) (feature : Feature) :
    runner.runFeature stop feature =
      .clock fun now => .done (runner.resultOf now feature [] [], stop) := by
  simp only [runFeature, select_eq, scheduled_of_dryRun hdry]
  rfl

theorem run_runFeatures_of_dryRun {β : Type} (features : List Feature) (time : Nat) (state : σ)
    (next : List FeatureResult × Bool → Task σ Event β) :
    ((runner.runFeatures stop features).bind next).run time state =
      (next (features.map (runner.resultOf time · [] []), stop)).run time state := by
  induction features generalizing next with
  | nil => rfl
  | cons feature rest ih =>
      simp only [runFeatures, runFeature_of_dryRun hdry, bind, Task.bind, Task.run, Task.bind_assoc]
      exact ih _

theorem exists_runSequential?_of_dryRun (features : List Feature) (stop : Bool) (state : σ) :
    ∃ results, runner.runSequential? stop features state = some ⟨results, stop, state, []⟩ := by
  cases features with
  | nil => exact ⟨[], rfl⟩
  | cons feature rest =>
      have hrun : (runner.runFeatures stop (feature :: rest)).run 0 state =
          ⟨[], state, 0, .finished ((feature :: rest).map (runner.resultOf 0 · [] []), stop)⟩ := by
        simp only [runFeatures, runFeature_of_dryRun hdry, bind, Task.bind, Task.run,
          run_runFeatures_of_dryRun hdry]
        rfl
      exact ⟨_, by rw [runSequential?, hrun]⟩

theorem jobs_of_dryRun (features : List Feature) : (runner.planOf features).jobs = [] := by
  refine (jobs_pooledPlan features).trans (List.eq_nil_iff_forall_not_mem.mpr fun job hjob => ?_)
  obtain ⟨_, feature, instance_, hinstance, _, _⟩ := mem_jobsFrom hjob
  rw [scheduled_of_dryRun hdry] at hinstance
  cases hinstance

theorem isEmpty_pooledStart (features : List Feature) (stop : Bool) (state : σ) :
    Pool.IsEmpty (state, (runner.selectAll features).map slotOf)
      (runner.pooledStart (runner.selectAll features) stop state) :=
  Pool.isEmpty_start (jobs_of_dryRun hdry features) _ _ stop _

theorem exists_pooledResult?_of_dryRun (features : List Feature)
    {machine : Pool.Machine (σ × List Slot) (Option HookError)} {slots : List Slot}
    (hempty : Pool.IsEmpty (state, slots) machine) (hcomplete : machine.isComplete = true) :
    ∃ results, runner.pooledResult? (runner.selectAll features) machine =
      some ⟨results, machine.stop, state, []⟩ := by
  obtain ⟨results, hresults⟩ : ∃ results,
      runner.collect machine 0 ((features.zip slots).map (Prod.map runner.selected id)) =
        .done results :=
    exists_collect fun pair _ => .inl (scheduled_of_dryRun hdry pair.1)
  refine ⟨results, ?_⟩
  rw [pooledResult?, if_pos hcomplete, selectAll_eq, hempty.shared_eq, List.zip_map_left, hresults]
  simp [Task.run, hempty.trace]

theorem of_runScheduled?_of_dryRun {schedule : List Pool.Turn} {runs : FeatureRuns σ}
    (h : runner.runScheduled? schedule stop features state = some runs) :
    runs.events = [] ∧ runs.state = state := by
  have hempty := isEmpty_pooledStart hdry features stop state
  obtain ⟨results, hresults⟩ := exists_pooledResult?_of_dryRun hdry features
    (hempty.runSchedule schedule) (collected_of_runScheduled? h).1
  cases h.symm.trans hresults
  exact ⟨rfl, rfl⟩

/-- A dry run comes to its end, however many workers there are. -/
theorem exists_run?_of_dryRun (features : List Feature) (stop : Bool) (state : σ) (rounds : Nat) :
    ∃ results stop', runner.run? (rounds + 1) stop features state = some ⟨results, stop', state, []⟩ := by
  unfold run?
  split
  · have hcomplete := Pool.isComplete_runRounds (jobs_of_dryRun hdry features) runner.options.workers
      ((runner.selectAll features).map fun selected => (runner.beforeFeature selected.feature).onFirst)
      stop (state, (runner.selectAll features).map slotOf) rounds
    have hempty := isEmpty_pooledStart hdry features stop state
    obtain ⟨results, hresults⟩ := exists_pooledResult?_of_dryRun hdry features
      (hempty.runRounds (rounds + 1)) hcomplete
    exact ⟨results, _, hresults⟩
  · obtain ⟨results, hresults⟩ := exists_runSequential?_of_dryRun hdry features stop state
    exact ⟨results, stop, hresults⟩

end Dry

/-! ## Runs as planned -/

/-- A run of features one after another agrees with the plan. -/
theorem exists_runAgrees_of_runSequential? {features : List Feature} {stop : Bool} {state : σ}
    {runs : FeatureRuns σ} (hdistinct : ∀ feature ∈ features, runner.HasDistinctKeys feature)
    (h : runner.runSequential? stop features state = some runs) :
    ∃ acts reports, Task.events acts = runs.events ∧
      runner.FeaturesCourse stop features acts reports runs.results runs.stop ∧
      runner.RunAgrees (runner.dryPlan features) reports runs.results := by
  obtain ⟨acts, reports, hevents, course, told⟩ := exists_course h
  have htells := tellsReports_dryPlan (isFateful_foretells.of_featuresCourse course)
  exact ⟨acts, reports, hevents, course, told.runAgrees hdistinct htells⟩

/-- A run of features on a pool agrees with the plan, whatever turns its workers take. -/
theorem runAgrees_of_runScheduled? {features : List Feature} {schedule : List Pool.Turn} {stop : Bool}
    {state : σ} {runs : FeatureRuns σ} (hdistinct : ∀ feature ∈ features, runner.HasDistinctKeys feature)
    (h : runner.runScheduled? schedule stop features state = some runs) :
    runner.RunAgrees (runner.dryPlan features)
      (runner.pooledReports (runner.pooledMachine features schedule stop state) 0 features)
      runs.results :=
  (allTold_of_runScheduled? h).runAgrees hdistinct
    (tellsReports_dryPlan (isFateful_foretells.of_runScheduled? h))

theorem exists_runAgrees_of_run? {features : List Feature} {rounds : Nat} {stop : Bool} {state : σ}
    {runs : FeatureRuns σ} (hdistinct : ∀ feature ∈ features, runner.HasDistinctKeys feature)
    (h : runner.run? rounds stop features state = some runs) :
    ∃ reports, runner.RunAgrees (runner.dryPlan features) reports runs.results := by
  unfold run? at h
  split at h
  · obtain ⟨schedule, _, hschedule⟩ := exists_runScheduled? runner features stop state rounds
    exact ⟨_, runAgrees_of_runScheduled? hdistinct (hschedule.symm.trans h)⟩
  · obtain ⟨_, reports, _, _, hagrees⟩ := exists_runAgrees_of_runSequential? hdistinct h
    exact ⟨reports, hagrees⟩

/-- As long as no two units of a feature have the same key, the plan of a dry run agrees with every run:
it has one scenario for each final record, in the order of the records, with its key and steps, and with
an error exactly where the template could not be expanded. Without a fallback a step that gets past the
hooks before it fails for the lack of a definition exactly if it is planned without one. A run that is
dry itself comes to its end and calls nothing, so nothing is reported on the way and the state is left as
it was; its instances are recorded as skipped. -/
theorem run_as_planned (runner : FeatureRunner σ ω) (features : List Feature) (stop : Bool) (state : σ)
    (hdistinct : ∀ feature ∈ features, runner.HasDistinctKeys feature) :
    (∀ runs, runner.runSequential? stop features state = some runs →
      ∃ acts reports, Task.events acts = runs.events ∧
        runner.FeaturesCourse stop features acts reports runs.results runs.stop ∧
        runner.RunAgrees (runner.dryPlan features) reports runs.results) ∧
    (∀ schedule runs, runner.runScheduled? schedule stop features state = some runs →
      runner.RunAgrees (runner.dryPlan features)
        (runner.pooledReports (runner.pooledMachine features schedule stop state) 0 features)
        runs.results) ∧
    (runner.suite.fallback = none → ∀ instance_ number step world acts failure world',
      (runner.runStep instance_ number step.1 world).Ends acts (.finished (failure, world')) →
      (∀ failed ∈ failure, failed.dispatched = true) →
      ((failure.map StepFailure.error).map StepError.kind = some .notFound ↔
        (planStep runner.suite.definitions step).isUndefined = true)) ∧
    (runner.options.dryRun = true →
      (∀ rounds, 0 < rounds → ∃ runs reports,
        runner.run? rounds stop features state = some runs ∧ runs.events = [] ∧ runs.state = state ∧
          runner.RunAgrees (runner.dryPlan features) reports runs.results) ∧
      ∀ schedule runs, runner.runScheduled? schedule stop features state = some runs →
        runs.events = [] ∧ runs.state = state) := by
  refine ⟨fun runs => exists_runAgrees_of_runSequential? hdistinct,
    fun schedule runs => runAgrees_of_runScheduled? hdistinct, ?_, ?_⟩
  · intro hfallback instance_ number step world acts failure world' hends
    exact (ScenarioRunner.stepLived_of_ends hends).notFound_iff hfallback
  · intro hdry
    refine ⟨?_, fun schedule runs => of_runScheduled?_of_dryRun hdry⟩
    intro rounds hrounds
    obtain ⟨later, rfl⟩ := Nat.exists_eq_succ_of_ne_zero hrounds.ne'
    obtain ⟨results, stop', hrun⟩ := exists_run?_of_dryRun hdry features stop state later
    obtain ⟨reports, hagrees⟩ := exists_runAgrees_of_run? hdistinct hrun
    exact ⟨_, reports, hrun, rfl, rfl, hagrees⟩

/-- A runner with a definition for the steps that begin with a certain letter. -/
def guided : FeatureRunner PUnit PUnit where
  suite :=
    { definitions :=
        { entries :=
            [{ index := 0, handler := fun _ => .done (.done (.ok ⟨⟩)), options := {}, location := default
               matcher :=
                { pattern := .regex "^g", source := "^g", groups := 0, placeholders := none
                  regex := .seq (.look .textStart) (.one 0 (.single 'g')) } }]
          resolution := [0]
          listed := Definitions.listed_singleton }
      newWorld := .done (.done (.ok ⟨⟩)) }
  options := {}
  strategy := .unconditional
  source := none

/-- A feature with a step that the definition does not match. -/
def visits : Feature where
  name := "Visits"
  scenarios :=
    [{ name := "arriving", steps := [.when "go in", .then "it rains"] },
      { name := "leaving", steps := [.when "go out"] }]

theorem run_as_planned_visits :
    ∃ runs pooled, guided.runSequential? false [visits] ⟨⟩ = some runs ∧
      guided.runScheduled? (List.replicate 6 ⟨0, 1, false⟩) false [visits] ⟨⟩ = some pooled ∧
      (guided.dryPlan [visits]).undefinedSteps.map (fun step => step.2.text) = ["it rains"] ∧
      (∃ reports, guided.RunAgrees (guided.dryPlan [visits]) reports runs.results) ∧
      ∃ reports, guided.RunAgrees (guided.dryPlan [visits]) reports pooled.results := by
  have hkeys : guided.unitKeys visits = [⟨"Visits", "arriving"⟩, ⟨"Visits", "leaving"⟩] := by cbv
  have hdistinct : ∀ feature ∈ [visits], guided.HasDistinctKeys feature := by
    rw [List.forall_mem_singleton, HasDistinctKeys, hkeys]
    decide
  obtain ⟨runs, hruns⟩ : ∃ runs, guided.runSequential? false [visits] ⟨⟩ = some runs := ⟨_, by cbv⟩
  obtain ⟨pooled, hpooled⟩ : ∃ pooled,
      guided.runScheduled? (List.replicate 6 ⟨0, 1, false⟩) false [visits] ⟨⟩ = some pooled :=
    ⟨_, by cbv⟩
  obtain ⟨hsequential, hscheduled, _⟩ := run_as_planned guided [visits] false ⟨⟩ hdistinct
  obtain ⟨_, reports, _, _, hagrees⟩ := hsequential runs hruns
  exact ⟨runs, pooled, hruns, hpooled, by cbv, ⟨reports, hagrees⟩, _, hscheduled _ pooled hpooled⟩

end FeatureRunner

end Acceptance
