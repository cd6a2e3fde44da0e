import Acceptance.Proofs.Feature.Unit
import Acceptance.Proofs.Feature.Untimed

/-!
# Features that run alike

What has been seen of the instances and the hooks of a feature in any run of them, in whatever order,
is what comes about when the feature is run by itself, as long as everything that it is given from
outside is steady.
-/

namespace Acceptance.FeatureRunner

open Aggregate (IsReport)

variable {σ ω : Type} (runner : FeatureRunner σ ω)

/-- What has been seen of a feature: how each of its instances ended, given how the hooks before the
feature did, and how the hooks after the feature ended, unless none of its instances is to be run. -/
structure Evidence (feature : Feature) (reports : List (List Record))
    (hookErrors : List HookError) : Prop where
  units : List.Forall₂ (fun instance_ report => IsReport instance_.key report ∧
    ∃ refused before own, (runner.beforeFeature feature).Ends before (.finished refused) ∧
      (runner.reportOf instance_ refused).Ends own (.finished report))
    (runner.scheduled feature) reports
  idle : runner.scheduled feature = [] → hookErrors = []
  after : runner.scheduled feature ≠ [] →
    ∃ acts, (runner.afterFeature feature
      (runner.resultOf 0 feature reports []).aggregate.hasFailures).Ends acts (.finished hookErrors)

variable {runner} {feature : Feature} {features : List Feature} {reports : List (List Record)}
  {hookErrors : List HookError}

theorem Evidence.isReports (evidence : runner.Evidence feature reports hookErrors) :
    List.Forall₂ IsReport ((runner.scheduled feature).map Instance.key) reports :=
  List.forall₂_map_left_iff.mpr (evidence.units.imp fun _ _ h => h.1)

/-- What instances report that a hook before their feature has refused does not depend on when they
report it, but for times. -/
theorem untimed_refused {error : HookError} {instances : List Instance} (now : Nat)
    (units : List.Forall₂ (fun instance_ report => ∃ own,
      (runner.reportOf instance_ (some error)).Ends own (.finished report)) instances reports) :
    reports.map (List.map Record.untimed) =
      (instances.map fun instance_ => [Record.failed instance_ (.featureHook error) now]).map
        (List.map Record.untimed) := by
  induction units with
  | nil => rfl
  | cons hunit _ ih =>
      obtain ⟨own, hown⟩ := hunit
      obtain ⟨now', later, _, hlater⟩ := Task.ends_clock.mp hown
      cases (Task.ends_done.mp hlater).2
      rw [List.map_cons, List.map_cons, List.map_cons, ih]
      rfl

/-- The hooks before a feature end alike in two runs where each of them does. -/
theorem beforeFeature_agree {left right : FeatureRunner σ ω}
    (h : left.suite.AgreeAlone right.suite .beforeFeature (featureContext feature none)) :
    Task.Agree (· = ·) (left.beforeFeature feature) (right.beforeFeature feature) := by
  refine (Suite.runHooksAlone_agree h).bind ?_
  rintro _ _ rfl
  exact .done rfl

section Steady

variable (steady : runner.Steady)

include steady

theorem afterFeature_agree (feature : Feature) (failed : Bool) :
    Task.Agree (· = ·) (runner.afterFeature feature failed) (runner.afterFeature feature failed) :=
  .bind_self (Suite.runAllHooksAlone_agree (steady.agreeAlone .afterFeature _)) fun _ _ _ => .done rfl

/-- The hooks before a feature end in a single way for all of its instances. -/
theorem Evidence.refused (evidence : runner.Evidence feature reports hookErrors)
    (hscheduled : runner.scheduled feature ≠ []) :
    ∃ refused, (runner.beforeFeature feature).Yields (refused = ·) ∧
      List.Forall₂ (fun instance_ report => ∃ own,
        (runner.reportOf instance_ refused).Ends own (.finished report))
        (runner.scheduled feature) reports := by
  have hhooks := steady.agreeAlone .beforeFeature (featureContext feature none)
  have agree := beforeFeature_agree hhooks
  have hunits := evidence.units
  obtain ⟨first, rest, heq⟩ := List.exists_cons_of_ne_nil hscheduled
  rw [heq] at hunits ⊢
  obtain ⟨report, later, ⟨_, refused, before, own, hbefore, hown⟩, hrest, rfl⟩ :=
    List.forall₂_cons_left_iff.mp hunits
  refine ⟨refused, agree.yields hbefore, .cons ⟨own, hown⟩ (hrest.imp ?_)⟩
  rintro instance_ report ⟨_, refused', before', own', hbefore', hown'⟩
  cases agree hbefore hbefore' with
  | finished hsame => exact ⟨own', hsame ▸ hown'⟩

/-! ## Features by themselves -/

theorem yields_runInstance {instance_ : Instance} {report : List Record}
    {own : List (Task.Act σ Event)} (h : (runner.run instance_).Ends own (.finished report)) :
    (runner.runInstance instance_).Yields fun records =>
      IsReport instance_.key records ∧ report.map Record.untimed = records.map Record.untimed := by
  have hrun : (runner.run instance_).Yields fun records =>
      IsReport instance_.key records ∧ report.map Record.untimed = records.map Record.untimed := by
    intro acts ending hends horder
    obtain ⟨records, rfl, hsame⟩ := (steady.run instance_).finished h hends
    exact ⟨records, rfl, ScenarioRunner.isReport_of_ends hends horder, hsame⟩
  refine hrun.caught.bind ?_
  rintro _ ⟨records, rfl, hrecords⟩
  exact .done hrecords

theorem yields_runInstances (hfast : runner.options.failFast = false) {instances : List Instance}
    (units : List.Forall₂ (fun instance_ report => ∃ own,
      (runner.run instance_).Ends own (.finished report)) instances reports) :
    (runner.runInstances false instances).Yields fun result => result.2 = false ∧
      ∃ reports', result.1 = reports'.flatten ∧
        List.Forall₂ IsReport (instances.map Instance.key) reports' ∧
        reports.map (List.map Record.untimed) = reports'.map (List.map Record.untimed) := by
  induction units with
  | nil => exact .done ⟨rfl, [], rfl, .nil, rfl⟩
  | @cons instance_ report instances reports hunit _ ih =>
      obtain ⟨own, hown⟩ := hunit
      refine (yields_runInstance steady hown).bind ?_
      rintro records ⟨hreport, hsame⟩
      rw [hfast]
      refine ih.bind ?_
      rintro ⟨_, _⟩ ⟨rfl, reports', rfl, hreports', hsame'⟩
      refine .done ⟨rfl, records :: reports', rfl, .cons hreport hreports', ?_⟩
      rw [List.map_cons, List.map_cons, hsame, hsame']

/-- A feature by itself comes to what has been seen of it, but for times. -/
theorem yields_runFeature (hfast : runner.options.failFast = false)
    (hdistinct : runner.HasDistinctKeys feature)
    (evidence : runner.Evidence feature reports hookErrors) :
    (runner.runFeature false feature).Yields fun result => result.2 = false ∧
      (runner.resultOf 0 feature reports hookErrors).untimed = result.1.untimed := by
  have hreports := evidence.isReports
  -- The hooks after the feature are told of a failure in both runs of it, or in none.
  have hclose (now : Nat) {reports' : List (List Record)}
      (hreports' : List.Forall₂ IsReport ((runner.scheduled feature).map Instance.key) reports')
      (hsame : reports.map (List.map Record.untimed) = reports'.map (List.map Record.untimed))
      (hscheduled : runner.scheduled feature ≠ []) :
      (runner.afterFeature feature
        (runner.resultOf now feature reports' []).aggregate.hasFailures).Yields (hookErrors = ·) ∧
      (runner.resultOf 0 feature reports hookErrors).untimed =
        (runner.resultOf now feature reports' hookErrors).untimed := by
    obtain ⟨acts, hafter⟩ := evidence.after hscheduled
    rw [← hasFailures_resultOf 0 now hdistinct hreports hreports' hsame]
    exact ⟨(afterFeature_agree steady feature _).yields hafter,
      untimed_resultOf 0 now hookErrors hdistinct hreports hreports' hsame⟩
  unfold runFeature
  refine .now fun now => ?_
  rw [select_eq]
  by_cases hempty : runner.scheduled feature = []
  · rw [hempty] at hreports ⊢
    obtain rfl := List.forall₂_nil_left_iff.mp hreports
    rw [evidence.idle hempty]
    refine .done ⟨rfl, untimed_resultOf 0 now [] hdistinct ?_ ?_ rfl⟩
    · rw [hempty]
      exact .nil
    · rw [hempty]
      exact .nil
  · obtain ⟨refused, hbefore, units⟩ := evidence.refused steady hempty
    simp only [List.isEmpty_iff, if_neg hempty, Bool.false_eq_true, if_false]
    refine hbefore.bind ?_
    rintro _ rfl
    cases refused with
    | none =>
        refine (yields_runInstances steady hfast units).bind ?_
        rintro ⟨_, _⟩ ⟨rfl, reports', rfl, hreports', hsame⟩
        obtain ⟨hafter, hresult⟩ := hclose now hreports' hsame hempty
        simp only [pure, bind, Task.done_bind, Aggregate.merge_ofRecords, aggregate_resultOf]
        refine hafter.bind ?_
        rintro _ rfl
        exact .done ⟨rfl, hresult⟩
    | some error =>
        refine .now fun now' => ?_
        obtain ⟨hafter, hresult⟩ := hclose now (isReports_map _ fun _ => rfl)
          (untimed_refused now' units) hempty
        simp only [pure, bind, Task.done_bind, aggregate_resultOf_map]
        refine hafter.bind ?_
        rintro _ rfl
        exact .done ⟨rfl, hresult⟩

/-- What has been seen of some features, as far as it counts for their results. -/
def Outcomes (runner : FeatureRunner σ ω) (features : List Feature) (results : List FeatureResult) :
    Prop :=
  List.Forall₂ (fun feature result => ∃ reports hookErrors,
    runner.Evidence feature reports hookErrors ∧
      result = runner.resultOf 0 feature reports hookErrors) features results

theorem yields_runFeatures (hfast : runner.options.failFast = false)
    {results : List FeatureResult} (outcomes : runner.Outcomes features results)
    (hdistinct : ∀ feature ∈ features, runner.HasDistinctKeys feature) :
    (runner.runFeatures false features).Yields fun result => result.2 = false ∧
      results.map FeatureResult.untimed = result.1.map FeatureResult.untimed := by
  induction outcomes with
  | nil => exact .done ⟨rfl, rfl⟩
  | cons hfirst _ ih =>
      obtain ⟨reports, hookErrors, evidence, rfl⟩ := hfirst
      obtain ⟨hhead, htail⟩ := List.forall_mem_cons.mp hdistinct
      refine (yields_runFeature steady hfast hhead evidence).bind ?_
      rintro ⟨result, _⟩ ⟨rfl, hresult⟩
      refine (ih htail).bind ?_
      rintro ⟨results, _⟩ ⟨rfl, hresults⟩
      refine .done ⟨rfl, ?_⟩
      rw [List.map_cons, List.map_cons, hresult, hresults]

/-- Features that are run one after another come to what has been seen of them, but for times. -/
theorem exists_runSequential? (hfast : runner.options.failFast = false) {results : List FeatureResult}
    (outcomes : runner.Outcomes features results)
    (hdistinct : ∀ feature ∈ features, runner.HasDistinctKeys feature) (state : σ) :
    ∃ runs, runner.runSequential? false features state = some runs ∧ runs.stop = false ∧
      results.map FeatureResult.untimed = runs.results.map FeatureResult.untimed := by
  obtain ⟨acts, hends, _, horder, _⟩ := Task.run_ends (runner.runFeatures false features) 0 state
  obtain ⟨⟨found, stop⟩, hending, hstop, hsame⟩ :=
    yields_runFeatures steady hfast outcomes hdistinct hends horder
  have heq : runner.runSequential? false features state =
      some ⟨found, stop, ((runner.runFeatures false features).run 0 state).state,
        ((runner.runFeatures false features).run 0 state).events⟩ := by
    unfold runSequential?
    dsimp only
    rw [hending]
  exact ⟨_, heq, hstop, hsame⟩

end Steady

/-! ## One worker -/

/-- The runner with another number of workers. -/
def withWorkers (runner : FeatureRunner σ ω) (workers : Nat) : FeatureRunner σ ω :=
  { runner with options := { runner.options with workers } }

section Workers

variable (workers : Nat)

theorem runInstances_withWorkers (stop : Bool) (instances : List Instance) :
    (runner.withWorkers workers).runInstances stop instances = runner.runInstances stop instances := by
  induction instances generalizing stop with
  | nil => rfl
  | cons instance_ rest ih =>
      have hrun : (runner.withWorkers workers).toScenarioRunner.run instance_ = runner.run instance_ :=
        runner.run_selecting { runner.options with workers } instance_
      simp only [runInstances, runInstance, ih, hrun]
      rfl

theorem runFeatures_withWorkers (stop : Bool) (features : List Feature) :
    (runner.withWorkers workers).runFeatures stop features = runner.runFeatures stop features := by
  induction features generalizing stop with
  | nil => rfl
  | cons feature rest ih =>
      simp only [runFeatures, runFeature, ih, runInstances_withWorkers]
      rfl

/-- A single worker runs features one after another. -/
theorem run?_one (rounds : Nat) (stop : Bool) (features : List Feature) (state : σ) :
    (runner.withWorkers 1).run? rounds stop features state =
      runner.runSequential? stop features state := by
  simp only [run?, runSequential?, runFeatures_withWorkers]
  rfl

end Workers

end Acceptance.FeatureRunner
