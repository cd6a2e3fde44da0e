import Acceptance.Proofs.Feature.Sequential
import Acceptance.Proofs.Scenario.Agreement

/-!
# Results without their times

Reports that differ in their times only make results that differ in their times only, as long as no
two units of a feature have the same key. So nothing that a summary counts depends on times.
-/

namespace Acceptance

open Aggregate (IsReport)

namespace Aggregate

/-- An aggregate without the times of its records. -/
def untimed (aggregate : Aggregate) : Aggregate :=
  { aggregate with records := aggregate.records.map Record.untimed }

@[simp] theorem stats_untimed (aggregate : Aggregate) :
    aggregate.untimed.stats = aggregate.stats := by
  simp only [untimed, stats, Stats.ofRecords, List.countP_map]
  rfl

@[simp] theorem hasFailures_untimed (aggregate : Aggregate) :
    aggregate.untimed.hasFailures = aggregate.hasFailures := by
  simp only [untimed, hasFailures, List.any_map]
  rfl

end Aggregate

/-- The result of a feature without the times of its records. -/
def FeatureResult.untimed (result : FeatureResult) : FeatureResult :=
  { result with aggregate := result.aggregate.untimed }

namespace Summary

/-- A summary without the times of its records. -/
def untimed (summary : Summary) : Summary :=
  { summary with results := summary.results.map Record.untimed }

theorem untimed_absorb (summary : Summary) (result : FeatureResult) :
    (summary.absorb result).untimed = summary.untimed.absorb result.untimed := by
  simp only [absorb, untimed, FeatureResult.untimed, Aggregate.stats_untimed, List.map_append]
  rfl

/-- What a run comes to apart from times depends only on what its features do. -/
theorem untimed_ofResults (results : List FeatureResult) :
    (ofResults results).untimed = ofResults (results.map FeatureResult.untimed) := by
  have hfrom (summary : Summary) : (results.foldl absorb summary).untimed =
      (results.map FeatureResult.untimed).foldl absorb summary.untimed := by
    induction results generalizing summary with
    | nil => rfl
    | cons result rest ih => rw [List.foldl_cons, ih, untimed_absorb, List.map_cons, List.foldl_cons]
  exact hfrom {}

end Summary

namespace FeatureRunner

variable {σ ω : Type} {runner : FeatureRunner σ ω} {feature : Feature}
  {reports reports' : List (List Record)} {result result' : FeatureResult}

/-- Apart from times, what is known of a feature before it runs does not depend on when it runs. -/
theorem untimed_known (runner : FeatureRunner σ ω) (now now' : Nat) (feature : Feature) :
    (runner.known now feature).map Record.untimed = (runner.known now' feature).map Record.untimed := by
  unfold known
  split <;> simp [Function.comp_def, Record.untimed, failedTemplate, Record.failed, Record.skipped,
    Record.ofAttempt]

theorem untimed_unitReports (now now' : Nat)
    (hreports : reports.map (List.map Record.untimed) = reports'.map (List.map Record.untimed)) :
    (runner.unitReports now feature reports).map (List.map Record.untimed) =
      (runner.unitReports now' feature reports').map (List.map Record.untimed) := by
  have hknown := congrArg (List.map fun record => [record]) (runner.untimed_known now now' feature)
  simp only [List.map_map] at hknown
  simp only [unitReports, List.map_append, List.map_map, hreports]
  exact congrArg (· ++ _) hknown

theorem Told.untimed_aggregate (told : runner.Told feature reports result)
    (hdistinct : runner.HasDistinctKeys feature) :
    result.aggregate.untimed =
      { records := (reports.map (List.map Record.untimed)).filterMap List.getLast?
        discarded :=
          ((reports.map (List.map Record.untimed)).map fun report => report.length - 1).sum } := by
  rw [told.aggregate_eq hdistinct]
  simp [Aggregate.untimed, List.filterMap_map, List.map_filterMap, Function.comp_def,
    List.getLast?_map]

/-- Results that take the same reports into account, but for their times, are the same but for their
times. -/
theorem Told.untimed_eq (told : runner.Told feature reports result)
    (told' : runner.Told feature reports' result') (hdistinct : runner.HasDistinctKeys feature)
    (hreports : reports.map (List.map Record.untimed) = reports'.map (List.map Record.untimed))
    (hhooks : result.hookErrors = result'.hookErrors) : result.untimed = result'.untimed := by
  have haggregate : result.aggregate.untimed = result'.aggregate.untimed := by
    rw [told.untimed_aggregate hdistinct, told'.untimed_aggregate hdistinct, hreports]
  have hwarnings := told.warnings.trans told'.warnings.symm
  have hcolumns := told.usedColumns.trans told'.usedColumns.symm
  simp [FeatureResult.untimed, haggregate, hwarnings, hcolumns, hhooks]

theorem untimed_resultOf (now now' : Nat) (hookErrors : List HookError)
    (hdistinct : runner.HasDistinctKeys feature)
    (h : List.Forall₂ IsReport ((runner.scheduled feature).map Instance.key) reports)
    (h' : List.Forall₂ IsReport ((runner.scheduled feature).map Instance.key) reports')
    (hreports : reports.map (List.map Record.untimed) = reports'.map (List.map Record.untimed)) :
    (runner.resultOf now feature reports hookErrors).untimed =
      (runner.resultOf now' feature reports' hookErrors).untimed :=
  (told_resultOf now hookErrors h).untimed_eq (told_resultOf now' hookErrors h') hdistinct
    (untimed_unitReports now now' hreports) rfl

/-- Whether a feature has failed does not depend on times. -/
theorem hasFailures_resultOf (now now' : Nat) (hdistinct : runner.HasDistinctKeys feature)
    (h : List.Forall₂ IsReport ((runner.scheduled feature).map Instance.key) reports)
    (h' : List.Forall₂ IsReport ((runner.scheduled feature).map Instance.key) reports')
    (hreports : reports.map (List.map Record.untimed) = reports'.map (List.map Record.untimed)) :
    (runner.resultOf now feature reports []).aggregate.hasFailures =
      (runner.resultOf now' feature reports' []).aggregate.hasFailures := by
  have heq := congrArg FeatureResult.aggregate (untimed_resultOf now now' [] hdistinct h h' hreports)
  have hfailures := congrArg Aggregate.hasFailures heq
  simpa [FeatureResult.untimed] using hfailures

end FeatureRunner

end Acceptance
