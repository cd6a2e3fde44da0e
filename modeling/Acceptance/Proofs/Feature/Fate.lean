import Acceptance.Proofs.Feature.Pooled
import Acceptance.Proofs.Feature.Summary

/-!
# The fates of instances

An instance is skipped, refused, crashed or run to its end, whatever happens around it. So what each of
these fates makes true of an instance and its report is true of all instances that a run schedules, whether
it runs features one after another or on a pool.
-/

namespace Acceptance.FeatureRunner

open Acceptance.Task (Act)

variable {σ ω : Type} (runner : FeatureRunner σ ω)

/-- What is true of an instance and its report in each of the fates that there are. -/
structure IsFateful (R : Instance → List Record → Prop) : Prop where
  skipped : ∀ instance_ now, R instance_ [.skipped instance_ now]
  refused : ∀ instance_ error now, R instance_ [.failed instance_ (.featureHook error) now]
  crashed : ∀ instance_ message now, R instance_ [.failed instance_ (.workerCrashed message) now]
  ran : ∀ instance_ acts records, (runner.run instance_).Ends acts (.finished records) →
    R instance_ records

/-- The reports of a feature are those of what is known before it runs and of the instances that are to be
run, and of these something is true. -/
def Scheduled (R : Instance → List Record → Prop) (feature : Feature) (reports : List (List Record)) :
    Prop :=
  ∃ now told, reports = runner.unitReports now feature told ∧
    List.Forall₂ R (runner.scheduled feature) told

variable {runner} {R : Instance → List Record → Prop} {feature : Feature} {features : List Feature}

namespace IsFateful

/-! ## One after another -/

section Sequential

variable {acts : List (Act σ Event)} {stop stop' : Bool} {result : FeatureResult}
  {results : List FeatureResult}

theorem of_ran (hfateful : runner.IsFateful R) {instance_ : Instance} {records : List Record}
    (ran : runner.Ran instance_ acts records) : R instance_ records := by
  cases ran with
  | finished h => exact hfateful.ran _ _ _ h
  | crashed _ now => exact hfateful.crashed _ _ now

theorem of_instancesCourse (hfateful : runner.IsFateful R) {instances : List Instance}
    {reports : List (List Record)}
    (course : runner.InstancesCourse stop instances acts reports stop') :
    List.Forall₂ R instances reports := by
  induction course with
  | nil => exact .nil
  | @skipped instance_ _ now _ _ _ _ ih => exact .cons (hfateful.skipped instance_ now) ih
  | ran ran _ ih => exact .cons (hfateful.of_ran ran) ih

/-- Where each instance is reported alike, it is enough that this is one of the fates. -/
theorem forall₂_map {f : Instance → List Record} (hf : ∀ instance_, R instance_ (f instance_))
    (instances : List Instance) : List.Forall₂ R instances (instances.map f) := by
  rw [List.forall₂_map_right_iff, List.forall₂_same]
  exact fun instance_ _ => hf instance_

theorem of_featureCourse (hfateful : runner.IsFateful R) {reports : List (List Record)}
    (course : runner.FeatureCourse feature stop acts reports result stop') :
    runner.Scheduled R feature reports := by
  cases course with
  | @idle _ now h =>
      refine ⟨now, [], rfl, ?_⟩
      rw [h]
      exact .nil
  | @skipped now _ _ hreports =>
      subst hreports
      exact ⟨now, _, rfl, forall₂_map (hfateful.skipped · now) _⟩
  | @refused now now' _ _ error _ _ _ _ hreports _ =>
      subst hreports
      exact ⟨now, _, rfl, forall₂_map (hfateful.refused · error now') _⟩
  | @ran now _ _ _ _ _ _ _ _ hinstances _ =>
      exact ⟨now, _, rfl, hfateful.of_instancesCourse hinstances⟩

theorem of_featuresCourse (hfateful : runner.IsFateful R) {reports : List (List (List Record))}
    (course : runner.FeaturesCourse stop features acts reports results stop') :
    List.Forall₂ (runner.Scheduled R) features reports := by
  induction course with
  | nil => exact .nil
  | cons first _ ih => exact .cons (hfateful.of_featureCourse first) ih

end Sequential

/-! ## On a pool -/

section Pooled

variable {machine : Pool.Machine (σ × List Slot) (Option HookError)} {unit : Nat}
  {gates : List (Task (σ × List Slot) Event (Option HookError))}

theorem of_reportOf (hfateful : runner.IsFateful R) {instance_ : Instance} {refused : Option HookError}
    {acts : List (Act σ Event)} {records : List Record}
    (h : (runner.reportOf instance_ refused).Ends acts (.finished records)) : R instance_ records := by
  cases refused with
  | none => exact hfateful.ran _ _ _ h
  | some error =>
      obtain ⟨now, later, _, hlater⟩ := Task.ends_clock.mp h
      cases (Task.ends_done.mp hlater).2
      exact hfateful.refused instance_ error now

theorem of_settled (hfateful : runner.IsFateful R) {fate : Pool.Fate}
    {job : Pool.Job (σ × List Slot) (Option HookError)}
    (settled : Pool.Settled (runner.planOf features) gates machine unit fate)
    (hjob : (runner.planOf features).jobs[unit]? = some job) :
    R job.instance_ (machine.recordsOf unit) := by
  obtain ⟨job', events, hjob', hcalled, _, hrecords⟩ := settled
  cases hjob.symm.trans hjob'
  obtain ⟨index, feature, instance_, _, _, rfl⟩ := exists_of_job hjob
  rw [hrecords]
  cases fate with
  | returned records =>
      -- A unit that returns has ended its instance. What it does with its slot then is left aside.
      cases hcalled _ rfl with
      | ran _ hends _ =>
          obtain ⟨own, hown, _⟩ := reportOf_of_ends hends
          exact hfateful.of_reportOf hown
  | crashed panic now => exact hfateful.crashed instance_ _ now
  | skipped now => exact hfateful.skipped instance_ now

theorem of_remaining {all : List Feature} {first index : Nat}
    (remaining : runner.Remaining all index first features)
    (h : ∀ unit job, (runner.planOf all).jobs[unit]? = some job →
      R job.instance_ (machine.recordsOf unit)) :
    List.Forall₂ (runner.Scheduled R) features (pooledReports runner machine first features) := by
  induction features generalizing first index with
  | nil => exact .nil
  | cons feature features ih =>
      refine .cons ⟨0, _, rfl, ?_⟩ (ih remaining.next)
      exact remaining.forall₂_unitsTold fun unit _ hjob => h unit _ hjob

theorem of_runScheduled? (hfateful : runner.IsFateful R) {schedule : List Pool.Turn} {stop : Bool}
    {state : σ} {runs : FeatureRuns σ}
    (h : runner.runScheduled? schedule stop features state = some runs) :
    List.Forall₂ (runner.Scheduled R) features
      (runner.pooledReports (runner.pooledMachine features schedule stop state) 0 features) := by
  have hcomplete := (collected_of_runScheduled? h).1
  apply of_remaining (remaining_all features)
  intro unit job hjob
  obtain ⟨fate, settled⟩ := exists_settled hcomplete hjob
  exact hfateful.of_settled settled hjob

end Pooled

end IsFateful

end Acceptance.FeatureRunner
