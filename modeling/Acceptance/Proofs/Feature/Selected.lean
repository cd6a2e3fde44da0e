import Acceptance.Proofs.Feature.Attempts

/-!
# What is selected

The units of a feature are the instances that pass the filters, and the templates that cannot be expanded
but pass them as they stand. They are found scenario by scenario, and without filters all of them are units.
Whatever becomes of a run, each of its final records is one of such a unit.
-/

namespace Acceptance

open ScenarioRunner (Lived Lives)

/-- The options without the filters. -/
def Options.unfiltered (options : Options) : Options :=
  { options with includeTags := none, excludeTags := none, nameFilter := none }

@[simp]
theorem Options.selects_unfiltered (options : Options) (instance_ : Instance) :
    options.unfiltered.selects instance_ = true := rfl

/-! ## Selections -/

namespace Selection

variable {options : Options} {source : Option ExamplesSource} {feature : Feature}

/-- What is selected from a feature comes scenario by scenario. -/
theorem part_ofFeature {α : Type} (part : Selection → List α) (hempty : part {} = [])
    (happend : ∀ left right, part (left.append right) = part left ++ part right) :
    part (ofFeature options source feature) =
      feature.scenarios.flatMap fun scenario => part (ofScenario options source feature scenario) := by
  have hfrom (selection : Selection) (scenarios : List Scenario) :
      part (scenarios.foldl (fun selection scenario =>
        selection.append (ofScenario options source feature scenario)) selection) =
        part selection ++ scenarios.flatMap fun scenario =>
          part (ofScenario options source feature scenario) := by
    induction scenarios generalizing selection with
    | nil => simp
    | cons scenario rest ih => rw [List.foldl_cons, ih, happend, List.flatMap_cons, List.append_assoc]
  rw [ofFeature, hfrom, hempty, List.nil_append]

theorem instances_ofScenario (scenario : Scenario) :
    (ofScenario options source feature scenario).instances =
      (ofScenario options.unfiltered source feature scenario).instances.filter options.selects := by
  unfold ofScenario
  cases Expansion.expand source feature scenario <;> simp

theorem failed_ofScenario (scenario : Scenario) :
    (ofScenario options source feature scenario).failed =
      (ofScenario options.unfiltered source feature scenario).failed.filter
        fun template => options.selects template.1 := by
  unfold ofScenario
  cases Expansion.expand source feature scenario with
  | ok expansion => rfl
  | error error => simp [List.filter_singleton]

/-- The selected instances are those that pass the filters among all there are. -/
theorem instances_eq_filter :
    (ofFeature options source feature).instances =
      (ofFeature options.unfiltered source feature).instances.filter options.selects := by
  rw [part_ofFeature instances rfl fun _ _ => rfl,
    part_ofFeature instances rfl fun _ _ => rfl, List.filter_flatMap]
  exact congrArg (List.flatMap · feature.scenarios) (funext instances_ofScenario)

/-- The reported templates are those that pass the filters among all that cannot be expanded. -/
theorem failed_eq_filter :
    (ofFeature options source feature).failed =
      (ofFeature options.unfiltered source feature).failed.filter
        fun template => options.selects template.1 := by
  rw [part_ofFeature failed rfl fun _ _ => rfl,
    part_ofFeature failed rfl fun _ _ => rfl, List.filter_flatMap]
  exact congrArg (List.flatMap · feature.scenarios) (funext failed_ofScenario)

end Selection

/-! ## Records of units -/

/-- A record names its instance, and repeats what the instance is made of. -/
structure Record.IsOf (instance_ : Instance) (record : Record) : Prop where
  key : record.key = instance_.key
  template : record.template = instance_.template
  iteration : record.iteration = instance_.iteration
  tags : record.tags = instance_.tags

theorem Record.isOf_ofAttempt (instance_ : Instance) (number : Nat) (steps : List StepRecord)
    (status : Status) (error : Option ScenarioError) (errors : List HookError)
    (startedAt finishedAt : Nat) :
    (Record.ofAttempt instance_ number steps status error errors startedAt finishedAt).IsOf instance_ :=
  ⟨rfl, rfl, rfl, rfl⟩

namespace FeatureRunner

variable {σ ω : Type} {runner : FeatureRunner σ ω} {feature : Feature} {features : List Feature}

/-- The runner without filters. -/
def unfiltered (runner : FeatureRunner σ ω) : FeatureRunner σ ω :=
  { runner with options := runner.options.unfiltered }

/-- Filtering leaves instances out, and changes neither their names nor their numbers. -/
theorem unitInstances_eq_filter (feature : Feature) :
    runner.unitInstances feature =
      (runner.unfiltered.unitInstances feature).filter runner.options.selects := by
  have hfailed : (runner.selection feature).failed.map Prod.fst =
      ((runner.unfiltered.selection feature).failed.map Prod.fst).filter runner.options.selects := by
    rw [List.filter_map]
    exact congrArg (List.map Prod.fst) Selection.failed_eq_filter
  rw [unitInstances, hfailed, unitInstances, List.filter_append]
  exact congrArg (_ ++ ·) Selection.instances_eq_filter

theorem scheduled_eq_filter (feature : Feature) :
    runner.scheduled feature = (runner.unfiltered.scheduled feature).filter runner.options.selects := by
  unfold scheduled
  split
  next hdry => rw [if_pos (show runner.unfiltered.options.dryRun = true from hdry), List.filter_nil]
  next hdry =>
    rw [if_neg (show ¬ runner.unfiltered.options.dryRun = true from hdry)]
    exact Selection.instances_eq_filter

/-- All units are selected. -/
theorem selects_of_mem_unitInstances {instance_ : Instance} (h : instance_ ∈ runner.unitInstances feature) :
    runner.options.selects instance_ = true := by
  rw [unitInstances_eq_filter] at h
  exact (List.mem_filter.mp h).2

/-- All records that a unit reports are records of it. -/
theorem Produces.isOf {instance_ : Instance} {report : List Record}
    (h : runner.Produces instance_ report) : ∀ record ∈ report, record.IsOf instance_ := by
  cases h with
  | unexpanded error now => exact List.forall_mem_singleton.mpr (Record.isOf_ofAttempt ..)
  | refused error now => exact List.forall_mem_singleton.mpr (Record.isOf_ofAttempt ..)
  | crashed message now => exact List.forall_mem_singleton.mpr (Record.isOf_ofAttempt ..)
  | skipped now => exact List.forall_mem_singleton.mpr (Record.isOf_ofAttempt ..)
  | attempted h =>
      refine List.forall_mem_map.mpr fun life hlife => ?_
      obtain ⟨k, hk⟩ := List.getElem?_of_mem hlife
      obtain ⟨acts, record⟩ := life
      cases h.lived k _ hk with
      | intro startedAt finishedAt _ _ _ _ _ => exact Record.isOf_ofAttempt ..

/-! ## Runs -/

/-- A run of features, one after another or on a pool. It goes with whether it was stopped from outside,
before it began or in one of the turns of its workers. -/
inductive IsRun (runner : FeatureRunner σ ω) (features : List Feature) : Bool → FeatureRuns σ → Prop
  | sequential {stop : Bool} {state : σ} {runs : FeatureRuns σ}
      (h : runner.runSequential? stop features state = some runs) : IsRun runner features stop runs
  | pooled {schedule : List Pool.Turn} {stop : Bool} {state : σ} {runs : FeatureRuns σ}
      (h : runner.runScheduled? schedule stop features state = some runs) :
      IsRun runner features (stop || schedule.any Pool.Turn.stops) runs

namespace IsRun

variable {stopped : Bool} {runs : FeatureRuns σ}

/-- The results of a run take the reports of all of its units into account, and what is true of each fate
is true of them. -/
theorem exists_reports (h : runner.IsRun features stopped runs) :
    ∃ reports, runner.AllTold features reports runs.results ∧
      ∀ R, runner.IsFateful R → List.Forall₂ (runner.Scheduled R) features reports := by
  cases h with
  | sequential h =>
      obtain ⟨_, reports, _, course, told⟩ := exists_course h
      exact ⟨reports, told, fun _ hfateful => hfateful.of_featuresCourse course⟩
  | pooled h => exact ⟨_, allTold_of_runScheduled? h, fun _ hfateful => hfateful.of_runScheduled? h⟩

/-- Each final record of a run is one of a unit. -/
theorem exists_unit (h : runner.IsRun features stopped runs) :
    ∀ record ∈ (Summary.ofResults runs.results).results,
      ∃ feature ∈ features, ∃ instance_ ∈ runner.unitInstances feature, record.IsOf instance_ := by
  obtain ⟨reports, told, hscheduled⟩ := h.exists_reports
  have produced := allProduce_of_scheduled (hscheduled _ isFateful_produces)
  intro record hrecord
  obtain ⟨feature, hfeature, instance_, hinstance, report, hproduced, hmem⟩ :=
    told.exists_report produced record hrecord
  exact ⟨feature, hfeature, instance_, hinstance, hproduced.isOf record hmem⟩

end IsRun

/-- Where the keys of each feature are all different, a run has one final record for each unit, in
order. -/
theorem IsRun.results_isOf {stopped : Bool} {runs : FeatureRuns σ}
    (h : runner.IsRun features stopped runs)
    (hdistinct : ∀ feature ∈ features, runner.HasDistinctKeys feature) :
    List.Forall₂ Record.IsOf (features.flatMap runner.unitInstances)
      (Summary.ofResults runs.results).results := by
  obtain ⟨reports, told, hscheduled⟩ := h.exists_reports
  have produced := allProduce_of_scheduled (hscheduled _ isFateful_produces)
  rw [Summary.results_ofResults, told.records_eq hdistinct]
  have hunits : List.Forall₂ runner.Produces (features.flatMap runner.unitInstances) reports.flatten := by
    clear told hdistinct hscheduled h
    induction produced with
    | nil => exact .nil
    | cons hhead _ ih => exact List.rel_append hhead ih
  exact forall₂_filterMap_getLast? (hunits.imp fun _ _ hproduces => hproduces.isOf) told.nonempty

end FeatureRunner

end Acceptance
