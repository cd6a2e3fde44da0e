import Acceptance.Proofs.Feature.Pooled
import Acceptance.Proofs.Feature.Summary
import Acceptance.Proofs.Scenario.Shape

/-!
# The shape of all records of a run

Whatever becomes of a unit, all records that it reports fit its instance. Only a unit for which nothing
was done is reported as skipped.
-/

namespace Acceptance

open Acceptance.Task (Act)

variable {σ ω : Type}

namespace Aggregate

theorem mem_record {aggregate : Aggregate} {record found : Record}
    (h : found ∈ (aggregate.record record).records) : found ∈ aggregate.records ∨ found = record := by
  unfold Aggregate.record at h
  split at h
  · obtain ⟨kept, hkept, rfl⟩ := List.mem_map.mp h
    unfold supersede
    split
    · exact .inr rfl
    · exact .inl hkept
  · simpa using h

/-- What is kept was kept before or has been reported. -/
theorem mem_extend {aggregate : Aggregate} {records : List Record} {found : Record}
    (h : found ∈ (aggregate.extend records).records) : found ∈ aggregate.records ∨ found ∈ records := by
  induction records generalizing aggregate with
  | nil => exact .inl h
  | cons record rest ih =>
      rcases ih h with hkept | hlater
      · rcases mem_record hkept with hkept | rfl
        · exact .inl hkept
        · exact .inr List.mem_cons_self
      · exact .inr (List.mem_cons_of_mem _ hlater)

end Aggregate

namespace FeatureRunner

variable (runner : FeatureRunner σ ω)

/-- The instances of all units of a feature: of the templates that cannot be expanded, then those that
are selected. -/
def unitInstances (feature : Feature) : List Instance :=
  ((runner.selection feature).failed.map Prod.fst) ++ (runner.selection feature).instances

/-- All records in some reports fit the instances of their units. -/
def AllShaped (features : List Feature) (reports : List (List (List Record))) : Prop :=
  List.Forall₂ (fun feature => List.Forall₂
    (fun instance_ report => ∀ record ∈ report, Record.IsShaped instance_ record)
    (runner.unitInstances feature)) features reports

/-- What is done for a unit by itself, and what it reports: a template that cannot be expanded and an
instance whose feature is refused fail, an instance is skipped, or it is run. -/
inductive UnitCourse (instance_ : Instance) : List (Act σ Event) → List Record → Prop
  | unexpanded (error : ExamplesError) (now : Nat) :
      UnitCourse instance_ [] [failedTemplate now (instance_, error)]
  | refused (error : HookError) (now : Nat) :
      UnitCourse instance_ [] [.failed instance_ (.featureHook error) now]
  | skipped (now : Nat) {acts} (hacts : Task.events acts = []) :
      UnitCourse instance_ acts [.skipped instance_ now]
  | ran {acts records} (ran : runner.Ran instance_ acts records) : UnitCourse instance_ acts records

/-- A unit with what was done for it and what it reported. -/
structure UnitRun (σ : Type) where
  instance_ : Instance
  acts : List (Act σ Event)
  report : List Record

/-- The units of a feature in order, and between what the feature did otherwise. -/
structure Divides (feature : Feature) (acts : List (Act σ Event)) (units : List (UnitRun σ)) :
    Prop where
  instances : units.map UnitRun.instance_ = runner.unitInstances feature
  courses : ∀ unit ∈ units, runner.UnitCourse unit.instance_ unit.acts unit.report
  between : ∃ opening closing, acts = opening ++ (units.flatMap UnitRun.acts ++ closing)

/-- The units of features that are run one after another. -/
inductive AllDivide : List Feature → List (Act σ Event) → List (List (UnitRun σ)) → Prop
  | nil : AllDivide [] [] []
  | cons {feature features acts later units rest} (first : runner.Divides feature acts units)
      (hrest : AllDivide features later rest) :
      AllDivide (feature :: features) (acts ++ later) (units :: rest)

variable {runner} {feature : Feature} {features : List Feature}

section Units

variable {instance_ : Instance} {acts : List (Act σ Event)} {report : List Record}

theorem Ran.isShaped (ran : runner.Ran instance_ acts report) :
    ∀ record ∈ report, record.IsShaped instance_ ∧ record.status ≠ .skipped := by
  cases ran with
  | finished h => exact ScenarioRunner.isShaped_of_ends h
  | crashed h now =>
      exact List.forall_mem_singleton.mpr ⟨Record.isShaped_failed rfl instance_ now, nofun⟩

theorem UnitCourse.isShaped (course : runner.UnitCourse instance_ acts report) :
    ∀ record ∈ report, record.IsShaped instance_ := by
  cases course with
  | unexpanded error now => exact List.forall_mem_singleton.mpr (Record.isShaped_failed rfl _ now)
  | refused error now => exact List.forall_mem_singleton.mpr (Record.isShaped_failed rfl _ now)
  | skipped now _ => exact List.forall_mem_singleton.mpr (Record.isShaped_skipped _ now)
  | ran ran => exact fun record hrecord => (ran.isShaped record hrecord).1

/-- A unit that does something is not skipped. -/
theorem UnitCourse.ne_skipped (course : runner.UnitCourse instance_ acts report)
    (hacts : Task.events acts ≠ []) : ∀ record ∈ report, record.status ≠ .skipped := by
  cases course with
  | unexpanded error now => exact absurd rfl hacts
  | refused error now => exact absurd rfl hacts
  | skipped now hnothing => exact absurd hnothing hacts
  | ran ran => exact fun record hrecord => (ran.isShaped record hrecord).2

end Units

/-! ## One after another -/

section Sequential

variable {acts : List (Act σ Event)} {stop stop' : Bool} {reports : List (List Record)}
  {result : FeatureResult} {results : List FeatureResult}

/-- Units that are reported without being run. -/
def still {α : Type} (instanceOf : α → Instance) (recordOf : α → Record) (items : List α) :
    List (UnitRun σ) :=
  items.map fun item => ⟨instanceOf item, [], [recordOf item]⟩

section Still

variable {α : Type} (instanceOf : α → Instance) (recordOf : α → Record) (items : List α)

@[simp] theorem instances_still :
    (still instanceOf recordOf items : List (UnitRun σ)).map UnitRun.instance_ =
      items.map instanceOf := by
  simp [still, Function.comp_def]

@[simp] theorem acts_still :
    (still instanceOf recordOf items : List (UnitRun σ)).flatMap UnitRun.acts = [] := by
  rw [still, List.flatMap_map]
  exact List.flatMap_eq_nil_iff.mpr fun _ _ => rfl

@[simp] theorem reports_still :
    (still instanceOf recordOf items : List (UnitRun σ)).map UnitRun.report =
      items.map fun item => [recordOf item] := by
  simp [still, Function.comp_def]

end Still

/-- The units of a feature that are known before it runs. -/
def knownUnits (runner : FeatureRunner σ ω) (now : Nat) (feature : Feature) : List (UnitRun σ) :=
  still Prod.fst (failedTemplate now) (runner.selection feature).failed ++
    if runner.options.dryRun then still id (Record.skipped · now) (runner.selection feature).instances
    else []

@[simp] theorem acts_knownUnits (now : Nat) (feature : Feature) :
    (runner.knownUnits now feature).flatMap UnitRun.acts = [] := by
  rw [knownUnits, List.flatMap_append]
  split <;> simp

theorem reports_knownUnits (now : Nat) (feature : Feature) :
    (runner.knownUnits now feature).map UnitRun.report =
      (runner.known now feature).map fun record => [record] := by
  rw [knownUnits, known]
  split <;> simp [Function.comp_def]

theorem instances_knownUnits (now : Nat) (feature : Feature) :
    (runner.knownUnits now feature).map UnitRun.instance_ ++ runner.scheduled feature =
      runner.unitInstances feature := by
  rw [knownUnits, scheduled, unitInstances]
  split <;> simp

theorem courses_knownUnits (now : Nat) (feature : Feature) :
    ∀ unit ∈ runner.knownUnits now feature,
      runner.UnitCourse unit.instance_ unit.acts unit.report := by
  rw [knownUnits, List.forall_mem_append]
  refine ⟨List.forall_mem_map.mpr fun template _ => .unexpanded template.2 now, ?_⟩
  split
  · exact List.forall_mem_map.mpr fun instance_ _ => .skipped now rfl
  · nofun

/-- A feature divides into its units if the instances that are to be run do. -/
theorem divides_of_scheduled (now : Nat) {units : List (UnitRun σ)} {acts : List (Act σ Event)}
    (opening closing : List (Act σ Event))
    (hinstances : units.map UnitRun.instance_ = runner.scheduled feature)
    (hacts : acts = opening ++ (units.flatMap UnitRun.acts ++ closing))
    (hcourses : ∀ unit ∈ units, runner.UnitCourse unit.instance_ unit.acts unit.report) :
    runner.Divides feature acts (runner.knownUnits now feature ++ units) where
  instances := by rw [List.map_append, hinstances, instances_knownUnits]
  courses := List.forall_mem_append.mpr ⟨courses_knownUnits now feature, hcourses⟩
  between := ⟨opening, closing, by rw [hacts, List.flatMap_append, acts_knownUnits, List.nil_append]⟩

theorem reports_unitReports (now : Nat) (units : List (UnitRun σ)) :
    (runner.knownUnits now feature ++ units).map UnitRun.report =
      runner.unitReports now feature (units.map UnitRun.report) := by
  rw [List.map_append, reports_knownUnits]
  rfl

/-- Instances that are run in order are units, one after another. -/
theorem InstancesCourse.exists_units {instances : List Instance}
    (course : runner.InstancesCourse stop instances acts reports stop') :
    ∃ units : List (UnitRun σ), units.map UnitRun.instance_ = instances ∧
      units.map UnitRun.report = reports ∧ units.flatMap UnitRun.acts = acts ∧
      ∀ unit ∈ units, runner.UnitCourse unit.instance_ unit.acts unit.report := by
  induction course with
  | nil => exact ⟨[], rfl, rfl, rfl, nofun⟩
  | @skipped instance_ rest now acts reports _ _ ih =>
      obtain ⟨units, rfl, rfl, rfl, hcourses⟩ := ih
      refine ⟨⟨instance_, [.clock now], [.skipped instance_ now]⟩ :: units, rfl, rfl, rfl, ?_⟩
      exact List.forall_mem_cons.mpr ⟨.skipped now rfl, hcourses⟩
  | @ran instance_ rest before records acts reports _ ran _ ih =>
      obtain ⟨units, rfl, rfl, rfl, hcourses⟩ := ih
      refine ⟨⟨instance_, before, records⟩ :: units, rfl, rfl, rfl, ?_⟩
      exact List.forall_mem_cons.mpr ⟨.ran ran, hcourses⟩

/-- A feature that is run by itself divides into its units. -/
theorem FeatureCourse.exists_units
    (course : runner.FeatureCourse feature stop acts reports result stop') :
    ∃ units, units.map UnitRun.report = reports ∧ runner.Divides feature acts units := by
  cases course with
  | @idle _ now h =>
      refine ⟨_, reports_unitReports now [], ?_⟩
      exact divides_of_scheduled now [.clock now] [] h.symm rfl nofun
  | @skipped now _ _ hreports =>
      subst hreports
      have hcourses : ∀ unit ∈ (still id (Record.skipped · now) (runner.scheduled feature) :
          List (UnitRun σ)), runner.UnitCourse unit.instance_ unit.acts unit.report :=
        List.forall_mem_map.mpr fun instance_ _ => .skipped now rfl
      refine ⟨_, (reports_unitReports now _).trans ?_,
        divides_of_scheduled now [.clock now] [] (by simp) (by simp) hcourses⟩
      simp
  | @refused now now' before after error _ _ _ _ hreports _ =>
      subst hreports
      have hcourses : ∀ unit ∈ (still id (Record.failed · (.featureHook error) now')
          (runner.scheduled feature) : List (UnitRun σ)),
          runner.UnitCourse unit.instance_ unit.acts unit.report :=
        List.forall_mem_map.mpr fun instance_ _ => .refused error now'
      refine ⟨_, (reports_unitReports now _).trans ?_,
        divides_of_scheduled now (.clock now :: before) (.clock now' :: after) (by simp) (by simp)
          hcourses⟩
      simp
  | @ran now before _ after _ _ _ _ _ hinstances _ =>
      obtain ⟨units, hunits, rfl, rfl, hcourses⟩ := hinstances.exists_units
      exact ⟨_, reports_unitReports now units,
        divides_of_scheduled now (.clock now :: before) after hunits rfl hcourses⟩

/-- Features that are run one after another divide into their units. -/
theorem FeaturesCourse.exists_units {reports : List (List (List Record))}
    (course : runner.FeaturesCourse stop features acts reports results stop') :
    ∃ units : List (List (UnitRun σ)), units.map (List.map UnitRun.report) = reports ∧
      runner.AllDivide features acts units := by
  induction course with
  | nil => exact ⟨[], rfl, .nil⟩
  | cons first _ ih =>
      obtain ⟨units, rfl, hfirst⟩ := first.exists_units
      obtain ⟨rest, rfl, hrest⟩ := ih
      exact ⟨units :: rest, rfl, .cons hfirst hrest⟩

/-- Units that take one of their courses report nothing but what fits their instances. -/
theorem AllDivide.allShaped {units : List (List (UnitRun σ))}
    (h : runner.AllDivide features acts units) :
    runner.AllShaped features (units.map (List.map UnitRun.report)) := by
  induction h with
  | nil => exact .nil
  | @cons feature features _ _ units rest first _ ih =>
      refine .cons ?_ ih
      rw [← first.instances, List.forall₂_map_left_iff, List.forall₂_map_right_iff, List.forall₂_same]
      exact fun unit hunit => (first.courses unit hunit).isShaped

theorem AllDivide.courses {units : List (List (UnitRun σ))}
    (h : runner.AllDivide features acts units) :
    ∀ unit ∈ units.flatten, runner.UnitCourse unit.instance_ unit.acts unit.report := by
  induction h with
  | nil => nofun
  | cons first _ ih => exact List.forall_mem_append.mpr ⟨first.courses, ih⟩

end Sequential

/-! ## On a pool -/

section Pooled

variable {machine : Pool.Machine (σ × List Slot) (Option HookError)} {unit : Nat}
  {gates : List (Task (σ × List Slot) Event (Option HookError))}

theorem isShaped_of_reportOf {instance_ : Instance} {refused : Option HookError}
    {acts : List (Act σ Event)} {records : List Record}
    (h : (runner.reportOf instance_ refused).Ends acts (.finished records)) :
    ∀ record ∈ records, record.IsShaped instance_ ∧ record.status ≠ .skipped := by
  cases refused with
  | none => exact ScenarioRunner.isShaped_of_ends h
  | some error =>
      obtain ⟨now, later, _, hlater⟩ := Task.ends_clock.mp h
      cases (Task.ends_done.mp hlater).2
      exact List.forall_mem_singleton.mpr ⟨Record.isShaped_failed rfl instance_ now, nofun⟩

/-- Whatever becomes of a unit, its records fit its instance, and one of them is of a skip only if
nothing came from the unit. -/
theorem isShaped_of_settled {fate : Pool.Fate} {job : Pool.Job (σ × List Slot) (Option HookError)}
    (settled : Pool.Settled (runner.planOf features) gates machine unit fate)
    (hjob : (runner.planOf features).jobs[unit]? = some job) :
    ∀ record ∈ machine.recordsOf unit, record.IsShaped job.instance_ ∧
      ∀ event, .fromUnit unit event ∈ machine.trace → record.status ≠ .skipped := by
  obtain ⟨job', events, hjob', hcalled, hmarks, hrecords⟩ := settled
  cases hjob.symm.trans hjob'
  obtain ⟨index, feature, instance_, _, _, rfl⟩ := exists_of_job hjob
  rw [hrecords]
  cases fate with
  | returned records =>
      cases hcalled _ rfl with
      | ran hpasses hends horder =>
          obtain ⟨own, hown, _⟩ := reportOf_of_ends hends
          intro record hrecord
          obtain ⟨hshaped, hstatus⟩ := isShaped_of_reportOf hown record hrecord
          exact ⟨hshaped, fun _ _ => hstatus⟩
  | crashed panic now =>
      exact List.forall_mem_singleton.mpr ⟨Record.isShaped_failed rfl instance_ now, fun _ _ => nofun⟩
  | skipped now =>
      refine List.forall_mem_singleton.mpr ⟨Record.isShaped_skipped instance_ now, fun event hevent => ?_⟩
      have hmark := (Pool.mem_marksOf rfl).mpr hevent
      rw [hmarks] at hmark
      cases List.mem_singleton.mp hmark

/-- The reports of a feature fit its units if those of the instances that are to be run do. -/
theorem allShaped_unitReports {reports : List (List Record)} (now : Nat)
    (h : List.Forall₂ (fun instance_ report => ∀ record ∈ report, Record.IsShaped instance_ record)
      (runner.scheduled feature) reports) :
    List.Forall₂ (fun instance_ report => ∀ record ∈ report, Record.IsShaped instance_ record)
      (runner.unitInstances feature) (runner.unitReports now feature reports) := by
  rw [← instances_knownUnits now, unitReports, ← reports_knownUnits]
  refine List.rel_append ?_ h
  rw [List.forall₂_map_left_iff, List.forall₂_map_right_iff, List.forall₂_same]
  exact fun unit hunit => (courses_knownUnits now feature unit hunit).isShaped

theorem allShaped_pooledReports {all : List Feature} {first index : Nat}
    (remaining : runner.Remaining all index first features)
    (hshaped : ∀ unit job, (runner.planOf all).jobs[unit]? = some job →
      ∀ record ∈ machine.recordsOf unit, record.IsShaped job.instance_) :
    runner.AllShaped features (pooledReports runner machine first features) := by
  induction features generalizing first index with
  | nil => exact .nil
  | cons feature features ih =>
      refine .cons (allShaped_unitReports 0 ?_) (ih remaining.next)
      exact remaining.forall₂_unitsTold fun unit _ hjob => hshaped unit _ hjob

end Pooled

/-! ## All records of a run -/

theorem forall₂_mem_right {α β : Type} {R : α → β → Prop} {items : List α} {others : List β}
    (h : List.Forall₂ R items others) : ∀ other ∈ others, ∃ item ∈ items, R item other := by
  intro other hother
  obtain ⟨i, hi, rfl⟩ := List.getElem_of_mem hother
  have hlt : i < items.length := h.length_eq ▸ hi
  exact ⟨items[i], List.getElem_mem hlt, h.get hlt hi⟩

/-- What is kept has been reported by a unit. -/
theorem AllTold.exists_report {R : Instance → List Record → Prop} {reports : List (List (List Record))}
    {results : List FeatureResult} (told : runner.AllTold features reports results)
    (hunits : List.Forall₂ (fun feature => List.Forall₂ R (runner.unitInstances feature)) features
      reports) :
    ∀ record ∈ (Summary.ofResults results).results, ∃ feature ∈ features,
      ∃ instance_ ∈ runner.unitInstances feature, ∃ report, R instance_ report ∧ record ∈ report := by
  rw [Summary.results_ofResults]
  intro record hrecord
  induction told with
  | nil => cases hrecord
  | @cons feature features reports later result results told _ ih =>
      obtain ⟨hfirst, hlater⟩ := List.forall₂_cons.mp hunits
      rcases List.mem_append.mp hrecord with hhead | htail
      · have hhead : record ∈ (Aggregate.ofRecords reports.flatten).records := told.aggregate ▸ hhead
        have hreported := (Aggregate.mem_extend hhead).resolve_left List.not_mem_nil
        obtain ⟨report, hreport, hmem⟩ := List.mem_flatten.mp hreported
        obtain ⟨instance_, hinstance, hR⟩ := forall₂_mem_right hfirst report hreport
        exact ⟨feature, List.mem_cons_self, instance_, hinstance, report, hR, hmem⟩
      · obtain ⟨found, hfound, hkept⟩ := ih hlater htail
        exact ⟨found, List.mem_cons_of_mem _ hfound, hkept⟩

/-- What is kept of reports that fit their units fits a unit. -/
theorem AllTold.isShaped {reports : List (List (List Record))} {results : List FeatureResult}
    (told : runner.AllTold features reports results) (shaped : runner.AllShaped features reports) :
    ∀ record ∈ (Summary.ofResults results).results,
      ∃ feature ∈ features, ∃ instance_ ∈ runner.unitInstances feature, record.IsShaped instance_ := by
  intro record hrecord
  obtain ⟨feature, hfeature, instance_, hinstance, report, hshaped, hmem⟩ :=
    told.exists_report shaped record hrecord
  exact ⟨feature, hfeature, instance_, hinstance, hshaped record hmem⟩

/-- All records of a run fit the instances of their units, those that are kept as well as those that are
discarded, and no instance is recorded as skipped for which a world was to be created. This holds
whether features are run one after another or on a pool, and in whatever order its workers take
turns. -/
theorem records_isShaped (runner : FeatureRunner σ ω) (features : List Feature) (stop : Bool)
    (state : σ) :
    (∀ runs, runner.runSequential? stop features state = some runs →
      ∃ acts units, Task.events acts = runs.events ∧ runner.AllDivide features acts units ∧
        runner.AllTold features (units.map (List.map UnitRun.report)) runs.results ∧
        (∀ unit ∈ units.flatten, ∀ record ∈ unit.report, record.IsShaped unit.instance_ ∧
          ∀ key number, .world key number ∈ Task.events unit.acts → record.status ≠ .skipped) ∧
        ∀ record ∈ (Summary.ofResults runs.results).results, ∃ feature ∈ features,
          ∃ instance_ ∈ runner.unitInstances feature, record.IsShaped instance_) ∧
    (∀ schedule runs, runner.runScheduled? schedule stop features state = some runs →
      ∃ machine reports, machine = runner.pooledMachine features schedule stop state ∧
        reports = runner.pooledReports machine 0 features ∧
        runner.AllTold features reports runs.results ∧ runner.AllShaped features reports ∧
        (∀ unit job, (runner.planOf features).jobs[unit]? = some job →
          ∀ record ∈ machine.recordsOf unit, record.IsShaped job.instance_ ∧
            ∀ key number, .fromUnit unit (.world key number) ∈ machine.trace →
              record.status ≠ .skipped) ∧
        ∀ record ∈ (Summary.ofResults runs.results).results, ∃ feature ∈ features,
          ∃ instance_ ∈ runner.unitInstances feature, record.IsShaped instance_) := by
  constructor
  · intro runs h
    obtain ⟨acts, reports, hevents, course, told⟩ := exists_course h
    obtain ⟨units, rfl, hunits⟩ := course.exists_units
    refine ⟨acts, units, hevents, hunits, told, ?_, told.isShaped hunits.allShaped⟩
    intro unit hunit record hrecord
    have course := hunits.courses unit hunit
    refine ⟨course.isShaped record hrecord, fun key number hworld => ?_⟩
    exact course.ne_skipped (List.ne_nil_of_mem hworld) record hrecord
  · intro schedule runs h
    have hcomplete := (collected_of_runScheduled? h).1
    have hunits : ∀ unit job, (runner.planOf features).jobs[unit]? = some job →
        ∀ record ∈ (runner.pooledMachine features schedule stop state).recordsOf unit,
          record.IsShaped job.instance_ ∧ ∀ key number, .fromUnit unit (.world key number) ∈
            (runner.pooledMachine features schedule stop state).trace → record.status ≠ .skipped := by
      intro unit job hjob record hrecord
      obtain ⟨fate, settled⟩ := exists_settled hcomplete hjob
      obtain ⟨hshaped, hstatus⟩ := isShaped_of_settled settled hjob record hrecord
      exact ⟨hshaped, fun key number => hstatus (.world key number)⟩
    have told := allTold_of_runScheduled? h
    have shaped := allShaped_pooledReports (remaining_all features) fun unit job hjob record hrecord =>
      (hunits unit job hjob record hrecord).1
    exact ⟨_, _, rfl, rfl, told, shaped, hunits, told.isShaped shaped⟩

theorem records_isShaped_doors :
    ∃ runs pooled, fragile.runSequential? false [doors] ⟨⟩ = some runs ∧
      fragile.runScheduled? (List.replicate 6 ⟨0, 1, false⟩) false [doors] ⟨⟩ = some pooled ∧
      (∀ record ∈ (Summary.ofResults runs.results).results, ∃ feature ∈ [doors],
        ∃ instance_ ∈ fragile.unitInstances feature, record.IsShaped instance_) ∧
      ∀ record ∈ (Summary.ofResults pooled.results).results, ∃ feature ∈ [doors],
        ∃ instance_ ∈ fragile.unitInstances feature, record.IsShaped instance_ := by
  obtain ⟨runs, hruns⟩ : ∃ runs, fragile.runSequential? false [doors] ⟨⟩ = some runs := ⟨_, by cbv⟩
  obtain ⟨pooled, hpooled⟩ : ∃ pooled,
      fragile.runScheduled? (List.replicate 6 ⟨0, 1, false⟩) false [doors] ⟨⟩ = some pooled :=
    ⟨_, by cbv⟩
  have hall := records_isShaped fragile [doors] false ⟨⟩
  obtain ⟨_, _, _, _, _, _, hfinal⟩ := hall.1 runs hruns
  obtain ⟨_, _, _, _, _, _, _, hfinal'⟩ := hall.2 _ pooled hpooled
  exact ⟨runs, pooled, hruns, hpooled, hfinal, hfinal'⟩

end FeatureRunner

end Acceptance
