import Acceptance.Proofs.Aggregate
import Acceptance.Proofs.Scenario.Retry
import Acceptance.Summary

/-!
# Reports of features

A feature reports one unit for each of its templates that cannot be expanded and for each of its
selected instances. Its result keeps the last record of each unit exactly if their keys are all
different, and then a summary shows every failure.
-/

namespace Acceptance

open Aggregate (IsReport)

/-- The records of a scenario that is run to its end are a report. -/
theorem ScenarioRunner.isReport_of_ends {σ ω : Type} {runner : ScenarioRunner σ ω}
    {instance_ : Instance} {acts : List (Task.Act σ Event)} {records : List Record}
    (h : (runner.run instance_).Ends acts (.finished records)) (horder : Task.InOrder acts) :
    IsReport instance_.key records := by
  obtain ⟨tries, rfl, rfl, htries⟩ := retriesFrom_of_ends h
  refine ⟨?_, ?_, ?_⟩
  · simpa using htries.ne_nil
  · exact List.forall_mem_map.mpr htries.keys
  · have hsorted := horder.sublist htries.finishedAt_sublist
    exact List.pairwise_map.mpr (List.pairwise_map.mp hsorted)

/-! ## Summaries of results -/

namespace Summary

/-- What each feature adds to a part of a summary is there in the order of the features. -/
theorem foldl_absorb {β : Type} {part : Summary → List β} {own : FeatureResult → List β}
    (h : ∀ summary result, part (summary.absorb result) = part summary ++ own result)
    (summary : Summary) (results : List FeatureResult) :
    part (results.foldl absorb summary) = part summary ++ results.flatMap own := by
  induction results generalizing summary with
  | nil => simp
  | cons result rest ih => rw [List.foldl_cons, ih, h, List.flatMap_cons, List.append_assoc]

theorem foldl_absorb_results (summary : Summary) (results : List FeatureResult) :
    (results.foldl absorb summary).results =
      summary.results ++ results.flatMap fun result => result.aggregate.records :=
  foldl_absorb (fun _ _ => rfl) summary results

theorem foldl_absorb_failed (summary : Summary) (results : List FeatureResult) :
    (results.foldl absorb summary).stats.failed =
      summary.stats.failed +
        (results.flatMap fun result => result.aggregate.records).countP
          fun record => record.status = .failed := by
  induction results generalizing summary with
  | nil => simp
  | cons result rest ih =>
      rw [List.foldl_cons, ih, List.flatMap_cons, List.countP_append, ← Nat.add_assoc]
      rfl

/-- The final records of a run are those of its features, one feature after another. -/
theorem results_ofResults (results : List FeatureResult) :
    (ofResults results).results = results.flatMap fun result => result.aggregate.records := by
  rw [ofResults, foldl_absorb_results]
  rfl

/-- A run has failures if one of its final records is one of a failure. -/
theorem hasFailures_ofResults (results : List FeatureResult) :
    (ofResults results).hasFailures = true ↔
      ∃ record ∈ (ofResults results).results, record.status = .failed := by
  rw [results_ofResults, hasFailures, ofResults, foldl_absorb_failed]
  simp [List.countP_pos_iff]

/-- A summary is faithful to the reports of some units: its results are the last records of them, one
for each in order, and it has failures wherever one of these is a failure. -/
structure Faithful (summary : Summary) (reports : List (List Record)) : Prop where
  results : summary.results = reports.filterMap List.getLast?
  failures : ∀ report ∈ reports, Pool.Machine.endsFailed report = true →
    summary.hasFailures = true

end Summary

namespace FeatureRunner

variable {σ ω : Type} {runner : FeatureRunner σ ω} {feature : Feature} {features : List Feature}

/-- What a feature is expanded to. -/
def selection (runner : FeatureRunner σ ω) (feature : Feature) : Selection :=
  .ofFeature runner.options runner.source feature

/-- The keys of all units of a feature: of the templates that cannot be expanded, then of the
instances. -/
def unitKeys (runner : FeatureRunner σ ω) (feature : Feature) : List ScenarioKey :=
  ((runner.selection feature).failed.map fun template => template.1.key) ++
    (runner.selection feature).instances.map Instance.key

/-- No two units of a feature have the same key. -/
def HasDistinctKeys (runner : FeatureRunner σ ω) (feature : Feature) : Prop :=
  (runner.unitKeys feature).Nodup

/-- The result of a feature takes the reports of all of its units into account. -/
structure Told (runner : FeatureRunner σ ω) (feature : Feature) (reports : List (List Record))
    (result : FeatureResult) : Prop where
  units : List.Forall₂ IsReport (runner.unitKeys feature) reports
  aggregate : result.aggregate = .ofRecords reports.flatten
  warnings : result.warnings = (runner.selection feature).warnings
  usedColumns : result.usedColumns = (runner.selection feature).usedColumns

namespace Told

variable {reports : List (List Record)} {result : FeatureResult}

theorem keys (told : runner.Told feature reports result) :
    result.aggregate.keys = (runner.unitKeys feature).foldl Aggregate.addKey [] := by
  rw [told.aggregate, Aggregate.ofRecords, Aggregate.keys_extend_reports _ told.units]
  rfl

/-- A result never keeps more records than there are units. -/
theorem length_le (told : runner.Told feature reports result) :
    result.aggregate.records.length ≤ reports.length := by
  have hsub := Aggregate.foldl_addKey_sublist [] (runner.unitKeys feature)
  rw [← told.keys] at hsub
  have hle := hsub.length_le
  rwa [Aggregate.keys, List.length_map, List.nil_append, told.units.length_eq] at hle

/-- A result keeps as many records as there are units exactly if their keys are all different. -/
theorem length_eq_iff (told : runner.Told feature reports result) :
    result.aggregate.records.length = reports.length ↔ runner.HasDistinctKeys feature := by
  have hsub := Aggregate.foldl_addKey_sublist [] (runner.unitKeys feature)
  have hiff := Aggregate.foldl_addKey_eq_iff List.nodup_nil (runner.unitKeys feature)
  rw [← told.keys, List.nil_append] at hsub hiff
  rw [HasDistinctKeys, ← hiff, ← told.units.length_eq, ← hsub.length_eq, Aggregate.keys,
    List.length_map]

/-- Where the keys of a feature are all different, its result keeps the last record of each unit. -/
theorem aggregate_eq (told : runner.Told feature reports result)
    (hdistinct : runner.HasDistinctKeys feature) :
    result.aggregate =
      { records := reports.filterMap List.getLast?
        discarded := (reports.map fun report => report.length - 1).sum } := by
  have hnodup : (Aggregate.keys {} ++ runner.unitKeys feature).Nodup := hdistinct
  rw [told.aggregate, Aggregate.ofRecords, Aggregate.extend_reports {} told.units hnodup]
  simp

end Told

/-! ## Several features -/

/-- The results of some features take all reports into account. -/
inductive AllTold (runner : FeatureRunner σ ω) :
    List Feature → List (List (List Record)) → List FeatureResult → Prop
  | nil : AllTold runner [] [] []
  | cons {feature features reports later result results}
      (told : runner.Told feature reports result) (rest : AllTold runner features later results) :
      AllTold runner (feature :: features) (reports :: later) (result :: results)

variable {reports : List (List (List Record))} {results : List FeatureResult}

theorem AllTold.length_le (told : runner.AllTold features reports results) :
    (results.flatMap fun result => result.aggregate.records).length ≤ reports.flatten.length := by
  induction told with
  | nil => exact Nat.le_refl 0
  | cons told _ ih =>
      rw [List.flatMap_cons, List.flatten_cons, List.length_append, List.length_append]
      exact Nat.add_le_add told.length_le ih

theorem AllTold.distinct_of_length (told : runner.AllTold features reports results)
    (hlength : (results.flatMap fun result => result.aggregate.records).length =
      reports.flatten.length) :
    ∀ feature ∈ features, runner.HasDistinctKeys feature := by
  induction told with
  | nil => nofun
  | @cons feature features reports later result results told rest ih =>
      rw [List.flatMap_cons, List.flatten_cons, List.length_append, List.length_append] at hlength
      have hfirst := told.length_le
      have hlater := rest.length_le
      intro other hother
      rcases List.mem_cons.mp hother with rfl | hother
      · exact told.length_eq_iff.mp (by omega)
      · exact ih (by omega) other hother

theorem AllTold.records_eq (told : runner.AllTold features reports results)
    (hdistinct : ∀ feature ∈ features, runner.HasDistinctKeys feature) :
    (results.flatMap fun result => result.aggregate.records) =
      reports.flatten.filterMap List.getLast? := by
  induction told with
  | nil => rfl
  | cons told _ ih =>
      obtain ⟨hfirst, hlater⟩ := List.forall_mem_cons.mp hdistinct
      rw [List.flatMap_cons, List.flatten_cons, List.filterMap_append, ih hlater,
        told.aggregate_eq hfirst]

/-- Where the keys of each feature are all different, final records come in the order of the units:
feature by feature, templates that cannot be expanded before instances. -/
theorem AllTold.keys_eq (told : runner.AllTold features reports results)
    (hdistinct : ∀ feature ∈ features, runner.HasDistinctKeys feature) :
    (results.flatMap fun result => result.aggregate.records).map Record.key =
      features.flatMap runner.unitKeys := by
  induction told with
  | nil => rfl
  | @cons feature features reports later result results told _ ih =>
      obtain ⟨hfirst, hlater⟩ := List.forall_mem_cons.mp hdistinct
      have hnodup : ([] ++ runner.unitKeys feature).Nodup := hfirst
      have hkeys := told.keys
      rw [Aggregate.foldl_addKey_of_nodup hnodup, List.nil_append] at hkeys
      rw [List.flatMap_cons, List.flatMap_cons, List.map_append, ih hlater, ← hkeys]
      rfl

/-- What is true of all records of a report is true of its last one. -/
theorem forall₂_filterMap_getLast? {α : Type} {R : α → Record → Prop} {items : List α}
    {reports : List (List Record)}
    (h : List.Forall₂ (fun item report => ∀ record ∈ report, R item record) items reports)
    (hne : ∀ report ∈ reports, report ≠ []) : List.Forall₂ R items (reports.filterMap List.getLast?) := by
  induction h with
  | nil => exact .nil
  | @cons item report _ _ hreport _ ih =>
      obtain ⟨hfirst, hlater⟩ := List.forall_mem_cons.mp hne
      rw [List.filterMap_cons, List.getLast?_eq_some_getLast hfirst]
      exact .cons (hreport _ (List.getLast_mem hfirst)) (ih hlater)

/-- There are no empty reports. -/
theorem AllTold.nonempty (told : runner.AllTold features reports results) :
    ∀ report ∈ reports.flatten, report ≠ [] := by
  induction told with
  | nil => nofun
  | cons told _ ih =>
      rw [List.flatten_cons, List.forall_mem_append]
      refine ⟨?_, ih⟩
      intro report hreport
      obtain ⟨i, hi, rfl⟩ := List.getElem_of_mem hreport
      have hkey : i < (runner.unitKeys _).length := told.units.length_eq ▸ hi
      exact (List.Forall₂.get told.units hkey hi).nonempty

/-- The summary of a run is faithful to what its units report exactly if no two units of a feature
have the same key. -/
theorem AllTold.faithful_iff (told : runner.AllTold features reports results) :
    (Summary.ofResults results).Faithful reports.flatten ↔
      ∀ feature ∈ features, runner.HasDistinctKeys feature := by
  constructor
  · intro faithful
    apply told.distinct_of_length
    rw [← Summary.results_ofResults, faithful.results, List.length_filterMap_eq_countP,
      List.countP_eq_length]
    intro report hreport
    simpa using told.nonempty report hreport
  · intro hdistinct
    have hresults : (Summary.ofResults results).results = reports.flatten.filterMap List.getLast? := by
      rw [Summary.results_ofResults, told.records_eq hdistinct]
    refine ⟨hresults, ?_⟩
    intro report hreport hfailed
    obtain ⟨last, hlast, hstatus⟩ := (Option.any_eq_true _ _).mp hfailed
    rw [Summary.hasFailures_ofResults, hresults]
    exact ⟨last, List.mem_filterMap.mpr ⟨report, hreport, hlast⟩, of_decide_eq_true hstatus⟩

end FeatureRunner

end Acceptance
