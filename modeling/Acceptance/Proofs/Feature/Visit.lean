import Acceptance.Proofs.Feature.Shape

/-!
# Visits of features

Features that are run one after another are visited in order. A visit calls the hooks around its feature
and starts the selected instances in between, unless there is nothing to be run or the start of instances
is stopped. Then all that it does is to record the instances as skipped.
-/

namespace Acceptance.FeatureRunner

open Acceptance.Task (Act)

variable {σ ω : Type}

/-- An instance is recorded as skipped, and nothing is called for it. -/
structure UnitRun.IsSkipped (unit : UnitRun σ) : Prop where
  report : ∃ now, unit.report = [.skipped unit.instance_ now]
  quiet : Task.events unit.acts = []

/-- A feature that is run by itself: when its instances were selected, what was done before the first of
them and how the hooks before the feature failed if they did, the selected instances, what was done after
the last of them, and the result. -/
structure Visit (σ : Type) where
  feature : Feature
  now : Nat
  opening : List (Act σ Event)
  refused : Option HookError
  units : List (UnitRun σ)
  closing : List (Act σ Event)
  result : FeatureResult

/-- All that is done in a visit. -/
def Visit.acts (visit : Visit σ) : List (Act σ Event) :=
  .clock visit.now :: (visit.opening ++ (visit.units.flatMap UnitRun.acts ++ visit.closing))

/-- No hook is called in a visit, and all of its instances are skipped. -/
structure Visit.IsSilent (visit : Visit σ) : Prop where
  quiet : Task.events visit.acts = []
  units : ∀ unit ∈ visit.units, unit.IsSkipped

variable (runner : FeatureRunner σ ω)

/-- The reports of a visit: of the templates that cannot be expanded, then of the instances. -/
def reportsOf (visit : Visit σ) : List (List Record) :=
  ((runner.selection visit.feature).failed.map fun template => [failedTemplate visit.now template]) ++
    visit.units.map UnitRun.report

/-- Instances that are started in order until the start of further ones is stopped. -/
inductive UnitsCourse : Bool → List (UnitRun σ) → Bool → Prop
  | nil {stop} : UnitsCourse stop [] stop
  | skipped {unit rest stop} (hskipped : unit.IsSkipped) (later : UnitsCourse true rest stop) :
      UnitsCourse true (unit :: rest) stop
  | ran {unit rest stop} (ran : runner.Ran unit.instance_ unit.acts unit.report)
      (later : UnitsCourse (runner.options.failFast && Pool.Machine.endsFailed unit.report) rest stop) :
      UnitsCourse false (unit :: rest) stop

/-- The hooks after a feature are called at the end of a visit, told whether the feature has failed. -/
def Closes (visit : Visit σ) : Prop :=
  (runner.afterFeature visit.feature visit.result.aggregate.hasFailures).Ends visit.closing
    (.finished visit.result.hookErrors)

/-- The course of a visit: no hook is called where nothing is to be started, a hook before the feature that
fails makes all instances fail, or they are started in order between the hooks. -/
inductive Visited (visit : Visit σ) : Bool → Bool → Prop
  | still {stop} (h : runner.scheduled visit.feature = [] ∨ stop = true)
      (hrefused : visit.refused = none) (hsilent : visit.IsSilent) : Visited visit stop stop
  | refused {error before now} (h : runner.scheduled visit.feature ≠ [])
      (hrefused : visit.refused = some error) (hopening : visit.opening = before ++ [.clock now])
      (hbefore : (runner.beforeFeature visit.feature).Ends before (.finished visit.refused))
      (hunits : ∀ unit ∈ visit.units, unit.acts = [] ∧
        unit.report = [.failed unit.instance_ (.featureHook error) now])
      (hcloses : runner.Closes visit) : Visited visit false false
  | ran {stop} (h : runner.scheduled visit.feature ≠ []) (hrefused : visit.refused = none)
      (hbefore : (runner.beforeFeature visit.feature).Ends visit.opening (.finished visit.refused))
      (hunits : runner.UnitsCourse false visit.units stop) (hcloses : runner.Closes visit) :
      Visited visit false stop

/-- Visits in order. -/
inductive VisitsCourse : Bool → List (Visit σ) → Bool → Prop
  | nil {stop} : VisitsCourse stop [] stop
  | cons {visit rest stop middle stop'} (first : runner.Visited visit stop middle)
      (later : VisitsCourse middle rest stop') : VisitsCourse stop (visit :: rest) stop'

/-- A run of features is a tour: each feature is visited in order, with the instances selected from it, and
its result takes all reports of the visit into account. -/
structure Tour (stop : Bool) (features : List Feature) (visits : List (Visit σ))
    (runs : FeatureRuns σ) : Prop where
  order : visits.map Visit.feature = features
  instances : ∀ visit ∈ visits,
    visit.units.map UnitRun.instance_ = (runner.selection visit.feature).instances
  events : Task.events (visits.flatMap Visit.acts) = runs.events
  results : visits.map Visit.result = runs.results
  told : runner.AllTold features (visits.map runner.reportsOf) runs.results
  course : runner.VisitsCourse stop visits runs.stop

variable {runner} {feature : Feature} {features : List Feature} {acts : List (Act σ Event)}
  {stop stop' : Bool} {reports : List (List Record)} {result : FeatureResult}

/-! ## What is to be run -/

/-- Where something is to be run, all selected instances are. -/
theorem scheduled_eq (h : runner.scheduled feature ≠ []) :
    runner.scheduled feature = (runner.selection feature).instances := by
  unfold scheduled at h ⊢
  split
  next hdry => simp [hdry] at h
  next => rfl

/-- Where nothing is to be run, all selected instances are skipped. -/
theorem unitReports_of_idle (now : Nat) (h : runner.scheduled feature = []) :
    runner.unitReports now feature [] =
      ((runner.selection feature).failed.map fun template => [failedTemplate now template]) ++
        (runner.selection feature).instances.map fun instance_ => [Record.skipped instance_ now] := by
  unfold unitReports known
  unfold scheduled at h
  split at h
  next hdry => simp [hdry, Function.comp_def]
  next hdry => simp [hdry, h]

theorem unitReports_of_scheduled (now : Nat) (h : runner.scheduled feature ≠ []) :
    runner.unitReports now feature reports =
      ((runner.selection feature).failed.map fun template => [failedTemplate now template]) ++
        reports := by
  have hdry : runner.options.dryRun = false := by
    by_contra hdry
    simp [scheduled, hdry] at h
  simp [unitReports, known, hdry]

/-! ## From courses to visits -/

theorem isSkipped_still (now : Nat) (instances : List Instance) :
    ∀ unit ∈ (still id (Record.skipped · now) instances : List (UnitRun σ)), unit.IsSkipped :=
  List.forall_mem_map.mpr fun _ _ => ⟨⟨now, rfl⟩, rfl⟩

theorem InstancesCourse.exists_unitsCourse {instances : List Instance}
    (course : runner.InstancesCourse stop instances acts reports stop') :
    ∃ units : List (UnitRun σ), units.map UnitRun.instance_ = instances ∧
      units.map UnitRun.report = reports ∧ units.flatMap UnitRun.acts = acts ∧
      runner.UnitsCourse stop units stop' := by
  induction course with
  | nil => exact ⟨[], rfl, rfl, rfl, .nil⟩
  | @skipped instance_ rest now acts reports _ _ ih =>
      obtain ⟨units, rfl, rfl, rfl, later⟩ := ih
      exact ⟨⟨instance_, [.clock now], [.skipped instance_ now]⟩ :: units, rfl, rfl, rfl,
        .skipped ⟨⟨now, rfl⟩, rfl⟩ later⟩
  | @ran instance_ rest before records acts reports _ ran _ ih =>
      obtain ⟨units, rfl, rfl, rfl, later⟩ := ih
      exact ⟨⟨instance_, before, records⟩ :: units, rfl, rfl, rfl, .ran ran later⟩

/-- A visit is one of a feature, with what is done and reported for it and what comes of it. -/
structure Visit.Shows (runner : FeatureRunner σ ω) (visit : Visit σ) (feature : Feature)
    (acts : List (Act σ Event)) (reports : List (List Record)) (result : FeatureResult) : Prop where
  instances : visit.units.map UnitRun.instance_ = (runner.selection feature).instances
  feature : visit.feature = feature
  acts : visit.acts = acts
  reports : runner.reportsOf visit = reports
  result : visit.result = result

/-- A visit in which no hook is called and every instance is skipped. -/
def Visit.silent (runner : FeatureRunner σ ω) (now : Nat) (feature : Feature)
    (result : FeatureResult) : Visit σ where
  feature := feature
  now := now
  opening := []
  refused := none
  units := still id (Record.skipped · now) (runner.selection feature).instances
  closing := []
  result := result

@[simp] theorem Visit.acts_silent (now : Nat) (feature : Feature) (result : FeatureResult) :
    (Visit.silent runner now feature result).acts = [.clock now] := by
  simp [Visit.silent, Visit.acts]

theorem Visit.reportsOf_silent (now : Nat) (feature : Feature) (result : FeatureResult) :
    runner.reportsOf (Visit.silent runner now feature result) =
      ((runner.selection feature).failed.map fun template => [failedTemplate now template]) ++
        (runner.selection feature).instances.map fun instance_ => [Record.skipped instance_ now] := by
  simp [Visit.silent, reportsOf]

theorem Visit.visited_silent (now : Nat) (result : FeatureResult)
    (h : runner.scheduled feature = [] ∨ stop = true) :
    runner.Visited (Visit.silent runner now feature result) stop stop := by
  refine .still h rfl ⟨?_, isSkipped_still now _⟩
  simp [Task.Act.event?, Task.events]

theorem FeatureCourse.exists_visit
    (course : runner.FeatureCourse feature stop acts reports result stop') :
    ∃ visit : Visit σ, visit.Shows runner feature acts reports result ∧
      runner.Visited visit stop stop' := by
  cases course with
  | @idle _ now h =>
      refine ⟨.silent runner now feature (runner.resultOf now feature [] []), ?_,
        Visit.visited_silent now _ (.inl h)⟩
      exact
        { feature := rfl
          instances := by simp [Visit.silent]
          acts := Visit.acts_silent now feature _
          reports := by rw [Visit.reportsOf_silent, unitReports_of_idle now h]
          result := rfl }
  | @skipped now reports h hreports =>
      refine ⟨.silent runner now feature (runner.resultOf now feature reports []), ?_,
        Visit.visited_silent now _ (.inr rfl)⟩
      subst hreports
      exact
        { feature := rfl
          instances := by simp [Visit.silent]
          acts := Visit.acts_silent now feature _
          reports := by rw [Visit.reportsOf_silent, unitReports_of_scheduled now h, scheduled_eq h]
          result := rfl }
  | @refused now now' before after error reports hookErrors h hbefore hreports hafter =>
      refine ⟨{ feature, now, opening := before ++ [.clock now'], refused := some error
                units := still id (Record.failed · (.featureHook error) now') (runner.scheduled feature)
                closing := after, result := runner.resultOf now feature reports hookErrors }, ?_, ?_⟩
      · subst hreports
        exact
          { feature := rfl
            instances := by simp [scheduled_eq h]
            acts := by simp [Visit.acts]
            reports := by simp [reportsOf, unitReports_of_scheduled now h]
            result := rfl }
      · refine .refused h rfl rfl hbefore ?_ hafter
        exact List.forall_mem_map.mpr fun _ _ => ⟨rfl, rfl⟩
  | @ran now before _ after reports hookErrors _ h hbefore hinstances hafter =>
      obtain ⟨units, hunits, hreports, rfl, hcourse⟩ := hinstances.exists_unitsCourse
      refine ⟨{ feature, now, opening := before, refused := none, units, closing := after
                result := runner.resultOf now feature reports hookErrors }, ?_,
        .ran h rfl hbefore hcourse hafter⟩
      exact
        { feature := rfl
          instances := hunits.trans (scheduled_eq h)
          acts := rfl
          reports := by rw [reportsOf, hreports, unitReports_of_scheduled now h]
          result := rfl }

theorem FeaturesCourse.exists_visits {reports : List (List (List Record))}
    {results : List FeatureResult}
    (course : runner.FeaturesCourse stop features acts reports results stop') :
    ∃ visits : List (Visit σ), visits.map Visit.feature = features ∧
      (∀ visit ∈ visits,
        visit.units.map UnitRun.instance_ = (runner.selection visit.feature).instances) ∧
      visits.flatMap Visit.acts = acts ∧ visits.map runner.reportsOf = reports ∧
      visits.map Visit.result = results ∧ runner.VisitsCourse stop visits stop' := by
  induction course with
  | nil => exact ⟨[], rfl, nofun, rfl, rfl, rfl, .nil⟩
  | cons first _ ih =>
      obtain ⟨visit, shows, visited⟩ := first.exists_visit
      obtain ⟨visits, rfl, hinstances, rfl, rfl, rfl, later⟩ := ih
      obtain ⟨hinstances', rfl, rfl, rfl, rfl⟩ := shows
      exact ⟨visit :: visits, rfl, List.forall_mem_cons.mpr ⟨hinstances', hinstances⟩, rfl, rfl, rfl,
        .cons visited later⟩

/-! ## Tours -/

section Tours

variable {visit : Visit σ} {visits : List (Visit σ)} {units : List (UnitRun σ)}

/-- Once the start of instances is stopped, all are skipped. -/
theorem UnitsCourse.of_stop (course : runner.UnitsCourse stop units stop') (hstop : stop = true) :
    stop' = true ∧ ∀ unit ∈ units, unit.IsSkipped := by
  induction course with
  | nil => exact ⟨hstop, nofun⟩
  | skipped hskipped _ ih =>
      obtain ⟨hstop', hlater⟩ := ih rfl
      exact ⟨hstop', List.forall_mem_cons.mpr ⟨hskipped, hlater⟩⟩
  | ran => cases hstop

theorem Visited.silent (visited : runner.Visited visit stop stop')
    (h : runner.scheduled visit.feature = [] ∨ stop = true) : stop' = stop ∧ visit.IsSilent := by
  cases visited with
  | still _ _ hsilent => exact ⟨rfl, hsilent⟩
  | refused hscheduled => exact absurd h (by simp [hscheduled])
  | ran hscheduled => exact absurd h (by simp [hscheduled])

/-- Visits are silent where there is nothing to be run, and once the start of instances is stopped. -/
theorem VisitsCourse.silent (course : runner.VisitsCourse stop visits stop')
    (h : (∀ visit ∈ visits, runner.scheduled visit.feature = []) ∨ stop = true) :
    stop' = stop ∧ ∀ visit ∈ visits, visit.IsSilent := by
  induction course with
  | nil => exact ⟨rfl, nofun⟩
  | cons first _ ih =>
      rw [List.forall_mem_cons] at h
      obtain ⟨rfl, hsilent⟩ := first.silent (h.imp_left And.left)
      obtain ⟨hstop, hlater⟩ := ih (h.imp_left And.right)
      exact ⟨hstop, List.forall_mem_cons.mpr ⟨hsilent, hlater⟩⟩

/-- Where the hooks before features do not fail, no visit is refused. -/
theorem VisitsCourse.refused_eq_none (course : runner.VisitsCourse stop visits stop')
    (h : ∀ visit ∈ visits, ∀ acts error,
      ¬ (runner.beforeFeature visit.feature).Ends acts (.finished (some error))) :
    ∀ visit ∈ visits, visit.refused = none := by
  induction course with
  | nil => nofun
  | cons first _ ih =>
      obtain ⟨hhead, htail⟩ := List.forall_mem_cons.mp h
      apply List.forall_mem_cons.mpr ⟨_, ih htail⟩
      cases first with
      | still _ hrefused => exact hrefused
      | refused _ hrefused _ hbefore => exact absurd (hrefused ▸ hbefore) (hhead _ _)
      | ran _ hrefused => exact hrefused

/-- Every run of features one after another is a tour. -/
theorem exists_tour {state : σ} {runs : FeatureRuns σ}
    (h : runner.runSequential? stop features state = some runs) :
    ∃ visits, runner.Tour stop features visits runs := by
  obtain ⟨acts, reports, hevents, course, told⟩ := exists_course h
  obtain ⟨visits, hfeatures, hinstances, rfl, rfl, hresults, hcourse⟩ := course.exists_visits
  exact ⟨visits, hfeatures, hinstances, hevents, hresults, told, hcourse⟩

/-- A single worker runs features one after another. -/
theorem run?_eq_runSequential? (hworkers : runner.options.workers ≤ 1) (rounds : Nat) (stop : Bool)
    (features : List Feature) (state : σ) :
    runner.run? rounds stop features state = runner.runSequential? stop features state :=
  if_neg (Nat.not_lt.mpr hworkers)

end Tours

end Acceptance.FeatureRunner
