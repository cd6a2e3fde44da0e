import Acceptance.Proofs.Feature.Agreement
import Acceptance.Proofs.Feature.Place
import Acceptance.Proofs.Feature.Fate

/-!
# Runners that differ for one instance

Two runners do the same for all instances but the one at a given place. What becomes of any other instance
is the same in runs of both, and where features are run one after another, so are the final records at all
other places.
-/

namespace Acceptance.FeatureRunner

variable {σ ω : Type} {left right runner : FeatureRunner σ ω} {features : List Feature}
  {feature : Feature} {place : Place}

/-- Two runners differ only in what they call for the instance at a place, and in the hooks after
features. -/
structure DiffersAt (left right : FeatureRunner σ ω) (features : List Feature) (place : Place) : Prop
    where
  corresponds : left.toScenarioRunner.Corresponds right.toScenarioRunner
  source : left.source = right.source
  beforeFeature : ∀ feature ∈ features,
    left.suite.AgreeAlone right.suite .beforeFeature (featureContext feature none)
  others : ∀ index feature, features[index]? = some feature →
    ∀ instance_ ∈ left.scheduled feature, ⟨index, instance_.key⟩ ≠ place →
      ∃ met, left.toScenarioRunner.Alike right.toScenarioRunner instance_ met

/-- The records of a place are the same but for their times, unless it is a given one. -/
def SameBut (place other : Place) (record record' : Record) : Prop :=
  other ≠ place → record.untimed = record'.untimed

theorem SameBut.of_untimed {other : Place} {record record' : Record}
    (h : record.untimed = record'.untimed) : SameBut place other record record' := fun _ => h

/-! ## Instances -/

/-- An instance ends after the hooks before its feature: it is run, or a hook has refused it. -/
def InstanceEnds (runner : FeatureRunner σ ω) (feature : Feature) (instance_ : Instance)
    (ending : Task.Ending (List Record)) : Prop :=
  ∃ refused before own, (runner.beforeFeature feature).Ends before (.finished refused) ∧
    (runner.reportOf instance_ refused).Ends own ending

/-- What becomes of an instance is the same in two runs, but for times, where the hooks before its feature
end alike and the instance is run alike. -/
theorem InstanceEnds.agree {instance_ : Instance} {ending ending' : Task.Ending (List Record)}
    (hhooks : Task.Agree (· = ·) (left.beforeFeature feature) (right.beforeFeature feature))
    (hrun : Task.Agree (fun records records' => records.map Record.untimed = records'.map Record.untimed)
      (left.run instance_) (right.run instance_))
    (h : left.InstanceEnds feature instance_ ending) (h' : right.InstanceEnds feature instance_ ending') :
    ending.Agree (fun records records' => records.map Record.untimed = records'.map Record.untimed)
      ending' := by
  obtain ⟨refused, before, own, hbefore, hown⟩ := h
  obtain ⟨refused', before', own', hbefore', hown'⟩ := h'
  cases hhooks hbefore hbefore' with
  | finished hsame =>
      subst hsame
      -- The hooks before a feature decide alike in both runs whether its instances are refused.
      cases refused with
      | none => exact hrun hown hown'
      | some error =>
          have hagree : Task.Agree
              (fun records records' => records.map Record.untimed = records'.map Record.untimed)
              (left.reportOf instance_ (some error)) (right.reportOf instance_ (some error)) :=
            .now fun _ _ => .done rfl
          exact hagree hown hown'

/-- What is reported of an instance that ends. -/
inductive ReportsEnding (instance_ : Instance) : Task.Ending (List Record) → List Record → Prop
  | finished (records : List Record) : ReportsEnding instance_ (.finished records) records
  | crashed (panic : Panic) (now : Nat) :
      ReportsEnding instance_ (.crashed panic) [.failed instance_ (.workerCrashed panic.message) now]

/-- Endings that agree are reported alike, but for times. -/
theorem ReportsEnding.untimed_eq {instance_ : Instance} {ending ending' : Task.Ending (List Record)}
    {report report' : List Record} (h : ReportsEnding instance_ ending report)
    (h' : ReportsEnding instance_ ending' report')
    (hagree : ending.Agree
      (fun records records' => records.map Record.untimed = records'.map Record.untimed) ending') :
    report.map Record.untimed = report'.map Record.untimed := by
  cases hagree with
  | finished hsame =>
      cases h
      cases h'
      exact hsame
  | crashed panic =>
      cases h
      cases h'
      rfl
  | hung => cases h

/-- An instance has been run or refused, and a report tells how it ended. -/
def Seen (runner : FeatureRunner σ ω) (feature : Feature) (instance_ : Instance)
    (report : List Record) : Prop :=
  ∃ ending, runner.InstanceEnds feature instance_ ending ∧ ReportsEnding instance_ ending report

section Differ

variable (differ : left.DiffersAt right features place)

include differ

theorem DiffersAt.selection_eq : right.selection = left.selection := by
  funext feature
  rw [selection, selection, differ.corresponds.options, differ.source]

theorem DiffersAt.scheduled_eq (feature : Feature) : right.scheduled feature = left.scheduled feature := by
  rw [scheduled, scheduled, differ.selection_eq, differ.corresponds.options]

theorem DiffersAt.unitKeys_eq (feature : Feature) : right.unitKeys feature = left.unitKeys feature := by
  rw [unitKeys, unitKeys, differ.selection_eq]

theorem DiffersAt.unitReports_eq (now : Nat) (feature : Feature) (reports : List (List Record)) :
    right.unitReports now feature reports = left.unitReports now feature reports := by
  rw [unitReports, unitReports, known, known, differ.selection_eq, differ.corresponds.options]

theorem DiffersAt.hasDistinctKeys (hdistinct : ∀ feature ∈ features, left.HasDistinctKeys feature) :
    ∀ feature ∈ features, right.HasDistinctKeys feature := by
  intro feature hfeature
  rw [HasDistinctKeys, differ.unitKeys_eq]
  exact hdistinct feature hfeature

/-- What becomes of an instance at another place is the same in both runs, but for times. -/
theorem DiffersAt.ending_agree {index : Nat} {instance_ : Instance}
    {ending ending' : Task.Ending (List Record)} (hfeature : features[index]? = some feature)
    (hinstance : instance_ ∈ left.scheduled feature) (hne : ⟨index, instance_.key⟩ ≠ place)
    (h : left.InstanceEnds feature instance_ ending) (h' : right.InstanceEnds feature instance_ ending') :
    ending.Agree (fun records records' => records.map Record.untimed = records'.map Record.untimed)
      ending' := by
  obtain ⟨met, alike⟩ := differ.others index feature hfeature instance_ hinstance hne
  exact h.agree (beforeFeature_agree (differ.beforeFeature feature (List.mem_of_getElem? hfeature)))
    (alike.run differ.corresponds) h'

/-- What is seen of an instance in both runs is the same, unless it is the one for which they differ. -/
theorem DiffersAt.endRelated_of_seen {index : Nat} {instance_ : Instance} {report report' : List Record}
    (hfeature : features[index]? = some feature) (hinstance : instance_ ∈ left.scheduled feature)
    (seen : left.Seen feature instance_ report) (seen' : right.Seen feature instance_ report') :
    EndRelated (SameBut place) ⟨index, instance_.key⟩ report report' := by
  obtain ⟨ending, hends, hreport⟩ := seen
  obtain ⟨ending', hends', hreport'⟩ := seen'
  by_cases hne : Place.mk index instance_.key = place
  · -- Nothing is said about the place where the runs differ.
    exact fun _ _ _ _ hother => absurd hne hother
  · have hagree := differ.ending_agree hfeature hinstance hne hends hends'
    exact .of_untimed (fun _ _ => .of_untimed) (hreport.untimed_eq hreport' hagree)

/-- Two runs have the same places, and related final records wherever their reports end related. -/
theorem DiffersAt.placeByPlace (hdistinct : ∀ feature ∈ features, left.HasDistinctKeys feature)
    {R : Place → Record → Record → Prop} {reports reports' : List (List (List Record))}
    {results results' : List FeatureResult} (told : left.AllTold features reports results)
    (told' : right.AllTold features reports' results')
    (aligned : Aligned (EndRelated R) (left.resultPlaces features) reports.flatten reports'.flatten) :
    PlaceByPlace (left.resultPlaces features) R (Summary.ofResults results).results
      (Summary.ofResults results').results := by
  have hdistinct' := differ.hasDistinctKeys hdistinct
  rw [Summary.results_ofResults, Summary.results_ofResults]
  refine { keys := ?_, keys' := ?_, related := ?_ }
  · rw [told.keys_eq hdistinct, resultPlaces, map_key_placesFrom]
  · rw [told'.keys_eq hdistinct', resultPlaces, map_key_placesFrom, funext differ.unitKeys_eq]
  · rw [told.records_eq hdistinct, told'.records_eq hdistinct']
    exact aligned_results aligned told.nonempty told'.nonempty

end Differ

/-! ## One after another -/

section Sequential

variable {acts acts' : List (Task.Act σ Event)} {stop stop' : Bool}

theorem seen_of_ran {before : List (Task.Act σ Event)} {instance_ : Instance} {report : List Record}
    (hbefore : (runner.beforeFeature feature).Ends before (.finished none))
    (ran : runner.Ran instance_ acts report) : runner.Seen feature instance_ report := by
  cases ran with
  | finished h => exact ⟨_, ⟨none, before, _, hbefore, h⟩, .finished _⟩
  | crashed h now => exact ⟨_, ⟨none, before, _, hbefore, h⟩, .crashed _ now⟩

/-- Where failures do not stop the start of further instances, all of them are run. -/
theorem InstancesCourse.forall₂_ran (hfast : runner.options.failFast = false) {instances : List Instance}
    {reports : List (List Record)}
    (course : runner.InstancesCourse false instances acts reports stop) :
    stop = false ∧
      List.Forall₂ (fun instance_ report => ∃ acts, runner.Ran instance_ acts report) instances
        reports := by
  induction instances generalizing acts reports with
  | nil =>
      cases course
      exact ⟨rfl, .nil⟩
  | cons instance_ rest ih =>
      cases course with
      | ran ran later =>
          -- A failure is handed on only where it stops the start of further instances.
          rw [hfast, Bool.false_and] at later
          exact (ih later).imp_right (.cons ⟨_, ran⟩)

theorem FeatureCourse.seen (hfast : runner.options.failFast = false) {reports : List (List Record)}
    {result : FeatureResult}
    (course : runner.FeatureCourse feature false acts reports result stop) :
    stop = false ∧ runner.Scheduled (runner.Seen feature) feature reports := by
  cases course with
  | @idle _ now h =>
      refine ⟨rfl, now, [], rfl, ?_⟩
      rw [h]
      exact .nil
  | @refused now now' before _ error _ _ _ hbefore hreports _ =>
      subst hreports
      refine ⟨rfl, now, _, rfl, ?_⟩
      rw [List.forall₂_map_right_iff, List.forall₂_same]
      intro instance_ _
      refine ⟨_, ⟨some error, before, [.clock now'], hbefore, ?_⟩, .finished _⟩
      exact Task.ends_clock.mpr ⟨now', [], rfl, Task.ends_done.mpr ⟨rfl, rfl⟩⟩
  | @ran now before _ _ _ _ _ _ hbefore hinstances _ =>
      obtain ⟨hstop, hran⟩ := hinstances.forall₂_ran hfast
      refine ⟨hstop, now, _, rfl, hran.imp ?_⟩
      rintro instance_ report ⟨_, ran⟩
      exact seen_of_ran hbefore ran

theorem FeaturesCourse.seen (hfast : runner.options.failFast = false)
    {reports : List (List (List Record))} {results : List FeatureResult}
    (course : runner.FeaturesCourse false features acts reports results stop) :
    List.Forall₂ (fun feature reports => runner.Scheduled (runner.Seen feature) feature reports)
      features reports := by
  induction features generalizing acts reports results with
  | nil =>
      cases course
      exact .nil
  | cons feature features ih =>
      cases course with
      | cons first rest =>
          obtain ⟨rfl, hfirst⟩ := first.seen hfast
          exact .cons hfirst (ih rest)

/-- The reports of features are aligned from one of the features on. -/
theorem DiffersAt.aligned_of_scheduled (differ : left.DiffersAt right features place) {index : Nat}
    {rest : List Feature} (hrest : features.drop index = rest)
    {reports reports' : List (List (List Record))}
    (h : List.Forall₂ (fun feature reports => left.Scheduled (left.Seen feature) feature reports) rest
      reports)
    (h' : List.Forall₂ (fun feature reports => right.Scheduled (right.Seen feature) feature reports) rest
      reports') :
    Aligned (EndRelated (SameBut place)) (placesFrom left.unitKeys index rest) reports.flatten
      reports'.flatten := by
  induction h generalizing index reports' with
  | nil =>
      cases h'
      exact .nil
  | @cons feature report rest reports hhead _ ih =>
      cases h' with
      | cons hhead' htail' =>
          obtain ⟨now, told, rfl, htold⟩ := hhead
          obtain ⟨now', told', rfl, htold'⟩ := hhead'
          rw [differ.scheduled_eq] at htold'
          rw [placesFrom_cons, List.flatten_cons, List.flatten_cons, differ.unitReports_eq]
          have hfeature := getElem?_of_drop hrest
          refine .append (aligned_unitReports (fun _ _ _ => .of_untimed) index now now' ?_)
            (ih (drop_of_drop hrest) htail')
          exact .of_forall₂ htold htold' fun instance_ hinstance _ _ =>
            differ.endRelated_of_seen hfeature hinstance

/-- Two runs of features one after another have the same final records but at the place where they
differ. -/
theorem DiffersAt.placeByPlace_runSequential? (differ : left.DiffersAt right features place)
    (hdistinct : ∀ feature ∈ features, left.HasDistinctKeys feature)
    (hfast : left.options.failFast = false) {state state' : σ} {runs runs' : FeatureRuns σ}
    (h : left.runSequential? false features state = some runs)
    (h' : right.runSequential? false features state' = some runs') :
    PlaceByPlace (left.resultPlaces features) (SameBut place) (Summary.ofResults runs.results).results
      (Summary.ofResults runs'.results).results := by
  obtain ⟨_, reports, _, course, told⟩ := exists_course h
  obtain ⟨_, reports', _, course', told'⟩ := exists_course h'
  have hfast' : right.options.failFast = false := differ.corresponds.options ▸ hfast
  exact differ.placeByPlace hdistinct told told'
    (differ.aligned_of_scheduled features.drop_zero (course.seen hfast) (course'.seen hfast'))

end Sequential

end Acceptance.FeatureRunner
