import Acceptance.Proofs.Feature.Fate
import Acceptance.Proofs.Feature.Shape
import Acceptance.Proofs.Scenario.Trace

/-!
# Records of attempts

What the units of a run report. An instance that is run to its end reports each of its attempts, and every
other unit reports a single record: a template that cannot be expanded, and an instance that is skipped,
refused or crashes. This is so whether features are run one after another or on a pool.
-/

namespace Acceptance.FeatureRunner

open Acceptance.Task (Act)
open ScenarioRunner (Life Lives)

variable {σ ω : Type}

section Reports

variable (runner : FeatureRunner σ ω)

/-- What a unit reports: a single record unless it is an instance that is run to its end, and then the
records of all attempts that it lived through. -/
inductive Produces (instance_ : Instance) : List Record → Prop
  | unexpanded (error : ExamplesError) (now : Nat) :
      Produces instance_ [failedTemplate now (instance_, error)]
  | refused (error : HookError) (now : Nat) :
      Produces instance_ [.failed instance_ (.featureHook error) now]
  | crashed (message : String) (now : Nat) :
      Produces instance_ [.failed instance_ (.workerCrashed message) now]
  | skipped (now : Nat) : Produces instance_ [.skipped instance_ now]
  | attempted {lives : List (Life σ)}
      (h : Lives runner.toScenarioRunner instance_ 1 lives [] (.finished (lives.map Life.record))) :
      Produces instance_ (lives.map Life.record)

/-- The reports of all units of some features, feature by feature. -/
def AllProduce (features : List Feature) (reports : List (List (List Record))) : Prop :=
  List.Forall₂ (fun feature => List.Forall₂ runner.Produces (runner.unitInstances feature)) features
    reports

end Reports

variable {runner : FeatureRunner σ ω} {R : Instance → List Record → Prop} {feature : Feature}
  {features : List Feature}

/-! ## Units that are known before a feature runs -/

theorem forall₂_still {α : Type} {instanceOf : α → Instance} {recordOf : α → Record} {items : List α}
    (h : ∀ item ∈ items, R (instanceOf item) [recordOf item]) :
    List.Forall₂ R ((still instanceOf recordOf items : List (UnitRun σ)).map UnitRun.instance_)
      ((still instanceOf recordOf items : List (UnitRun σ)).map UnitRun.report) := by
  rw [instances_still, reports_still, List.forall₂_map_left_iff, List.forall₂_map_right_iff,
    List.forall₂_same]
  exact h

/-- What is true of the instances that are to be run is true of all units, where it is true of templates
that cannot be expanded. -/
theorem Scheduled.units {reports : List (List Record)} (hfateful : runner.IsFateful R)
    (hunexpanded : ∀ template now, R template.1 [failedTemplate now template])
    (h : runner.Scheduled R feature reports) :
    List.Forall₂ R (runner.unitInstances feature) reports := by
  -- The known units come first, then those that are run, in the order of the instances.
  obtain ⟨now, told, rfl, htold⟩ := h
  rw [← instances_knownUnits now, unitReports, ← reports_knownUnits]
  refine List.rel_append ?_ htold
  rw [knownUnits, List.map_append, List.map_append]
  refine List.rel_append (forall₂_still fun template _ => hunexpanded template now) ?_
  split
  · exact forall₂_still fun instance_ _ => hfateful.skipped instance_ now
  · exact .nil

/-! ## All units -/

theorem isFateful_produces : runner.IsFateful runner.Produces where
  skipped := fun _ now => .skipped now
  refused := fun _ error now => .refused error now
  crashed := fun _ message now => .crashed message now
  ran := by
    intro instance_ acts records hends
    obtain ⟨lives, _, rfl, hlives⟩ := ScenarioRunner.lives_of_finished hends
    exact .attempted hlives

theorem allProduce_of_scheduled {reports : List (List (List Record))}
    (h : List.Forall₂ (runner.Scheduled runner.Produces) features reports) :
    runner.AllProduce features reports :=
  h.imp fun _ _ hscheduled =>
    hscheduled.units isFateful_produces fun template now => .unexpanded template.2 now

theorem FeaturesCourse.allProduce {stop stop' : Bool} {acts : List (Act σ Event)}
    {reports : List (List (List Record))} {results : List FeatureResult}
    (course : runner.FeaturesCourse stop features acts reports results stop') :
    runner.AllProduce features reports :=
  allProduce_of_scheduled (isFateful_produces.of_featuresCourse course)

theorem allProduce_of_runScheduled? {schedule : List Pool.Turn} {stop : Bool} {state : σ}
    {runs : FeatureRuns σ} (h : runner.runScheduled? schedule stop features state = some runs) :
    runner.AllProduce features
      (runner.pooledReports (runner.pooledMachine features schedule stop state) 0 features) :=
  allProduce_of_scheduled (isFateful_produces.of_runScheduled? h)

end Acceptance.FeatureRunner
