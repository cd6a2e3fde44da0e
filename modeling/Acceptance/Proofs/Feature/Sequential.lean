import Acceptance.Proofs.Feature.Report

/-!
# Features one after another

The course of features that are run one after another: which instance is run when, what each of them
reports, and between which hooks. Whatever happens on the way, the results take all reports into
account.
-/

namespace Acceptance.FeatureRunner

open Aggregate (IsReport)

variable {σ ω : Type} (runner : FeatureRunner σ ω)

/-- What is known of a feature before it runs: the templates that cannot be expanded are reported as
failed, and the instances as skipped where nothing is to be run. -/
def known (now : Nat) (feature : Feature) : List Record :=
  ((runner.selection feature).failed.map (failedTemplate now)) ++
    if runner.options.dryRun then (runner.selection feature).instances.map (Record.skipped · now) else []

/-- The instances of a feature that are to be run. -/
def scheduled (feature : Feature) : List Instance :=
  if runner.options.dryRun then [] else (runner.selection feature).instances

/-- The reports of all units of a feature, given those of the instances that are to be run. -/
def unitReports (now : Nat) (feature : Feature) (reports : List (List Record)) : List (List Record) :=
  ((runner.known now feature).map fun record => [record]) ++ reports

/-- The result of a feature that takes some reports into account. -/
def resultOf (now : Nat) (feature : Feature) (reports : List (List Record))
    (hookErrors : List HookError) : FeatureResult where
  aggregate := .ofRecords (runner.unitReports now feature reports).flatten
  warnings := (runner.selection feature).warnings
  usedColumns := (runner.selection feature).usedColumns
  hookErrors := hookErrors

/-- An instance that is run by itself is reported with the records of its run, or as failed where its
run crashes. -/
inductive Ran (instance_ : Instance) : List (Task.Act σ Event) → List Record → Prop
  | finished {acts records} (h : (runner.run instance_).Ends acts (.finished records)) :
      Ran instance_ acts records
  | crashed {acts panic} (h : (runner.run instance_).Ends acts (.crashed panic)) (now : Nat) :
      Ran instance_ (acts ++ [.clock now]) [.failed instance_ (.workerCrashed panic.message) now]

/-- What is done and reported when instances are run in order: they are skipped once the start of
further ones is stopped. -/
inductive InstancesCourse :
    Bool → List Instance → List (Task.Act σ Event) → List (List Record) → Bool → Prop
  | nil {stop} : InstancesCourse stop [] [] [] stop
  | skipped {instance_ rest now acts reports stop}
      (later : InstancesCourse true rest acts reports stop) :
      InstancesCourse true (instance_ :: rest) (.clock now :: acts)
        ([.skipped instance_ now] :: reports) stop
  | ran {instance_ rest before records acts reports stop} (ran : runner.Ran instance_ before records)
      (later : InstancesCourse (runner.options.failFast && Pool.Machine.endsFailed records) rest acts
        reports stop) :
      InstancesCourse false (instance_ :: rest) (before ++ acts) (records :: reports) stop

/-- What is done and reported when a feature is run by itself: its hooks are called around its
instances, unless it has none or the start of further ones is stopped. -/
inductive FeatureCourse (feature : Feature) :
    Bool → List (Task.Act σ Event) → List (List Record) → FeatureResult → Bool → Prop
  | idle {stop now} (h : runner.scheduled feature = []) :
      FeatureCourse feature stop [.clock now] (runner.unitReports now feature [])
        (runner.resultOf now feature [] []) stop
  | skipped {now reports} (h : runner.scheduled feature ≠ [])
      (hreports : reports = (runner.scheduled feature).map fun instance_ => [.skipped instance_ now]) :
      FeatureCourse feature true [.clock now] (runner.unitReports now feature reports)
        (runner.resultOf now feature reports []) true
  | refused {now now' before after error reports hookErrors} (h : runner.scheduled feature ≠ [])
      (hbefore : (runner.beforeFeature feature).Ends before (.finished (some error)))
      (hreports : reports = (runner.scheduled feature).map fun instance_ =>
        [.failed instance_ (.featureHook error) now'])
      (hafter : (runner.afterFeature feature
        (runner.resultOf now feature reports []).aggregate.hasFailures).Ends after
          (.finished hookErrors)) :
      FeatureCourse feature false (.clock now :: (before ++ .clock now' :: after))
        (runner.unitReports now feature reports) (runner.resultOf now feature reports hookErrors) false
  | ran {now before acts after reports hookErrors stop} (h : runner.scheduled feature ≠ [])
      (hbefore : (runner.beforeFeature feature).Ends before (.finished none))
      (hinstances : runner.InstancesCourse false (runner.scheduled feature) acts reports stop)
      (hafter : (runner.afterFeature feature
        (runner.resultOf now feature reports []).aggregate.hasFailures).Ends after
          (.finished hookErrors)) :
      FeatureCourse feature false (.clock now :: (before ++ (acts ++ after)))
        (runner.unitReports now feature reports) (runner.resultOf now feature reports hookErrors) stop

/-- What is done and reported when features are run one after another. -/
inductive FeaturesCourse : Bool → List Feature → List (Task.Act σ Event) →
    List (List (List Record)) → List FeatureResult → Bool → Prop
  | nil {stop} : FeaturesCourse stop [] [] [] [] stop
  | cons {feature features stop before after reports later result results middle stop'}
      (first : runner.FeatureCourse feature stop before reports result middle)
      (rest : FeaturesCourse middle features after later results stop') :
      FeaturesCourse stop (feature :: features) (before ++ after) (reports :: later)
        (result :: results) stop'

variable {runner} {feature : Feature} {features : List Feature}

theorem flatten_unitReports (now : Nat) (feature : Feature) (reports : List (List Record)) :
    (runner.unitReports now feature reports).flatten = runner.known now feature ++ reports.flatten := by
  rw [unitReports, List.flatten_append, ← List.flatMap_def, List.flatMap_singleton']

/-- What is known of a feature before it runs is what is selected from it. -/
theorem select_eq (now : Nat) (feature : Feature) :
    runner.select now feature = (runner.resultOf now feature [] [], runner.scheduled feature) := by
  simp only [select, resultOf, flatten_unitReports, known, scheduled, selection]
  split <;> simp

theorem aggregate_resultOf (now : Nat) (feature : Feature) (reports : List (List Record)) :
    (runner.resultOf now feature [] []).aggregate.extend reports.flatten =
      (runner.resultOf now feature reports []).aggregate := by
  simp [resultOf, flatten_unitReports, Aggregate.ofRecords, Aggregate.extend_append]

/-- Where each instance has a single record, so do the reports. -/
theorem aggregate_resultOf_map (now : Nat) (feature : Feature) (instances : List Instance)
    (f : Instance → Record) :
    (runner.resultOf now feature [] []).aggregate.extend (instances.map f) =
      (runner.resultOf now feature (instances.map fun instance_ => [f instance_]) []).aggregate := by
  rw [List.map_eq_flatMap, List.flatMap_def, aggregate_resultOf]

section Ends

variable {acts : List (Task.Act σ Event)} {stop stop' : Bool}

theorem ran_of_ends {instance_ : Instance} {records : List Record}
    (h : (runner.runInstance instance_).Ends acts (.finished records)) :
    runner.Ran instance_ acts records := by
  unfold runInstance at h
  simp only [bind, pure, Task.ends_bind_finished] at h
  obtain ⟨result, before, after, rfl, hcaught, hrest⟩ := h
  obtain ⟨value, heq, hends⟩ | ⟨panic, heq, hends⟩ | ⟨heq, _⟩ := Task.ends_caught.mp hcaught
  · cases heq
    obtain ⟨rfl, heq⟩ := Task.ends_done.mp hrest
    cases heq
    rw [List.append_nil]
    exact .finished hends
  · cases heq
    simp only [Task.ends_bind_finished, ScenarioRunner.ends_now, Task.ends_done] at hrest
    obtain ⟨now, _, _, rfl, rfl, rfl, heq⟩ := hrest
    cases heq
    exact .crashed hends now
  · cases heq

theorem instancesCourse_of_ends {instances : List Instance} {records : List Record}
    (h : (runner.runInstances stop instances).Ends acts (.finished (records, stop'))) :
    ∃ reports, records = reports.flatten ∧
      runner.InstancesCourse stop instances acts reports stop' := by
  induction instances generalizing stop acts records with
  | nil =>
      obtain ⟨rfl, heq⟩ := Task.ends_done.mp h
      cases heq
      exact ⟨[], rfl, .nil⟩
  | cons instance_ rest ih =>
      unfold runInstances at h
      cases stop with
      | true =>
          simp only [bind, pure, if_true, Task.ends_bind_finished, Task.ends_done,
            ScenarioRunner.ends_now, Task.done_bind] at h
          obtain ⟨now, _, _, rfl, rfl, ⟨later, middle⟩, after, _, rfl, hlater, rfl, heq⟩ := h
          cases heq
          obtain ⟨reports, rfl, course⟩ := ih hlater
          rw [List.append_nil]
          exact ⟨[.skipped instance_ now] :: reports, rfl, .skipped course⟩
      | false =>
          simp only [bind, pure, Bool.false_eq_true, if_false, Task.ends_bind_finished,
            Task.ends_done] at h
          obtain ⟨first, before, _, rfl, hfirst, ⟨later, middle⟩, after, _, rfl, hlater, rfl, heq⟩ := h
          cases heq
          obtain ⟨reports, rfl, course⟩ := ih hlater
          rw [List.append_nil]
          exact ⟨first :: reports, rfl, .ran (ran_of_ends hfirst) course⟩

theorem featureCourse_of_ends {result : FeatureResult}
    (h : (runner.runFeature stop feature).Ends acts (.finished (result, stop'))) :
    ∃ reports, runner.FeatureCourse feature stop acts reports result stop' := by
  unfold runFeature at h
  simp only [bind, pure, Task.ends_bind_finished, ScenarioRunner.ends_now, select_eq] at h
  obtain ⟨now, _, acts, rfl, rfl, h⟩ := h
  by_cases hempty : runner.scheduled feature = []
  · rw [hempty] at h
    obtain ⟨rfl, heq⟩ := Task.ends_done.mp h
    cases heq
    exact ⟨_, .idle hempty⟩
  simp only [List.isEmpty_iff, if_neg hempty, aggregate_resultOf_map] at h
  cases stop with
  | true =>
      obtain ⟨rfl, heq⟩ := Task.ends_done.mp h
      cases heq
      exact ⟨_, .skipped hempty rfl⟩
  | false =>
      simp only [Bool.false_eq_true, if_false, Task.ends_bind_finished] at h
      obtain ⟨error, before, rest, rfl, hbefore, h⟩ := h
      cases error with
      | none =>
          simp only [Task.ends_bind_finished, Task.ends_done, Task.done_bind,
            Aggregate.merge_ofRecords] at h
          obtain ⟨⟨records, stop⟩, acts, _, rfl, hinstances, hookErrors, after, _, rfl, hafter, rfl,
            heq⟩ := h
          cases heq
          obtain ⟨reports, rfl, course⟩ := instancesCourse_of_ends hinstances
          rw [aggregate_resultOf] at hafter ⊢
          rw [List.append_nil, List.singleton_append]
          exact ⟨_, .ran hempty hbefore course hafter⟩
      | some error =>
          simp only [Task.ends_bind_finished, Task.ends_done, Task.done_bind,
            ScenarioRunner.ends_now] at h
          obtain ⟨now', _, _, rfl, rfl, hookErrors, after, _, rfl, hafter, rfl, heq⟩ := h
          cases heq
          rw [List.append_nil, List.singleton_append, List.singleton_append]
          exact ⟨_, .refused hempty hbefore rfl hafter⟩

/-- Features that are run one after another take one of the courses that there are. -/
theorem featuresCourse_of_ends {results : List FeatureResult}
    (h : (runner.runFeatures stop features).Ends acts (.finished (results, stop'))) :
    ∃ reports, runner.FeaturesCourse stop features acts reports results stop' := by
  induction features generalizing stop acts results with
  | nil =>
      obtain ⟨rfl, heq⟩ := Task.ends_done.mp h
      cases heq
      exact ⟨[], .nil⟩
  | cons feature features ih =>
      unfold runFeatures at h
      simp only [bind, pure, Task.ends_bind_finished, Task.ends_done] at h
      obtain ⟨⟨result, middle⟩, before, _, rfl, hfirst, ⟨later, last⟩, after, _, rfl, hrest, rfl,
        heq⟩ := h
      cases heq
      obtain ⟨reports, first⟩ := featureCourse_of_ends hfirst
      obtain ⟨later, rest⟩ := ih hrest
      rw [List.append_nil]
      exact ⟨reports :: later, .cons first rest⟩

end Ends

/-! ## Reports of a course -/

section Reports

variable {acts : List (Task.Act σ Event)} {stop stop' : Bool} {reports : List (List Record)}
  {result : FeatureResult} {results : List FeatureResult}

theorem isReports_singletons (records : List Record) :
    List.Forall₂ IsReport (records.map Record.key) (records.map fun record => [record]) := by
  induction records with
  | nil => exact .nil
  | cons record rest ih => exact .cons (Aggregate.isReport_singleton rfl) ih

/-- The units of a feature are those that are known before it runs and the instances that are to be
run. -/
theorem unitKeys_eq (now : Nat) (feature : Feature) :
    runner.unitKeys feature =
      (runner.known now feature).map Record.key ++ (runner.scheduled feature).map Instance.key := by
  have hfailed : (runner.selection feature).failed.map (fun template => template.1.key) =
      ((runner.selection feature).failed.map (failedTemplate now)).map Record.key := by
    rw [List.map_map]
    rfl
  have hskipped : (runner.selection feature).instances.map Instance.key =
      ((runner.selection feature).instances.map (Record.skipped · now)).map Record.key := by
    rw [List.map_map]
    rfl
  rw [unitKeys, known, scheduled, List.map_append, List.append_assoc, hfailed]
  split
  · rw [hskipped, List.map_nil, List.append_nil]
  · rw [List.map_nil, List.nil_append]

/-- A result takes all reports into account if there is one for each instance that is to be run. -/
theorem told_resultOf (now : Nat) (hookErrors : List HookError)
    (h : List.Forall₂ IsReport ((runner.scheduled feature).map Instance.key) reports) :
    runner.Told feature (runner.unitReports now feature reports)
      (runner.resultOf now feature reports hookErrors) where
  units := by
    rw [unitKeys_eq now]
    exact List.rel_append (isReports_singletons _) h
  aggregate := rfl
  warnings := rfl
  usedColumns := rfl

theorem isReports_map (instances : List Instance) {f : Instance → Record}
    (hkey : ∀ instance_, (f instance_).key = instance_.key) :
    List.Forall₂ IsReport (instances.map Instance.key) (instances.map fun instance_ => [f instance_]) := by
  induction instances with
  | nil => exact .nil
  | cons instance_ rest ih => exact .cons (Aggregate.isReport_singleton (hkey instance_)) ih

theorem Ran.isReport {instance_ : Instance} {records : List Record}
    (ran : runner.Ran instance_ acts records) (horder : Task.InOrder acts) :
    IsReport instance_.key records := by
  cases ran with
  | finished h => exact ScenarioRunner.isReport_of_ends h horder
  | crashed h now => exact Aggregate.isReport_singleton rfl

theorem InstancesCourse.isReports {instances : List Instance}
    (course : runner.InstancesCourse stop instances acts reports stop') (horder : Task.InOrder acts) :
    List.Forall₂ IsReport (instances.map Instance.key) reports := by
  induction course with
  | nil => exact .nil
  | skipped later ih => exact .cons (Aggregate.isReport_singleton rfl) (ih horder.tail)
  | ran ran later ih => exact .cons (ran.isReport horder.before) (ih horder.after)

theorem FeatureCourse.told (course : runner.FeatureCourse feature stop acts reports result stop')
    (horder : Task.InOrder acts) : runner.Told feature reports result := by
  cases course with
  | idle h =>
      apply told_resultOf
      rw [h]
      exact .nil
  | skipped _ hreports =>
      subst hreports
      exact told_resultOf _ _ (isReports_map _ fun _ => rfl)
  | refused _ _ hreports _ =>
      subst hreports
      exact told_resultOf _ _ (isReports_map _ fun _ => rfl)
  | ran _ _ hinstances _ =>
      exact told_resultOf _ _ (hinstances.isReports horder.tail.after.before)

/-- Whatever happens in the course of some features, their results take all reports into account. -/
theorem FeaturesCourse.told {reports : List (List (List Record))}
    (course : runner.FeaturesCourse stop features acts reports results stop')
    (horder : Task.InOrder acts) : runner.AllTold features reports results := by
  induction course with
  | nil => exact .nil
  | cons first _ ih => exact .cons (first.told horder.before) (ih horder.after)

end Reports

end Acceptance.FeatureRunner
