import Acceptance.Proofs.Feature.Undisturbed
import Acceptance.Proofs.Feature.Visit

/-!
# Stopping at the first failure

Where a failure stops the start of further instances, the first instance that ends failed is the last one
that is run when features are run one after another. All that is still called after it are the hooks after
its own feature.
-/

namespace Acceptance.FeatureRunner

variable {σ ω : Type}

section Cut

variable (runner : FeatureRunner σ ω)

/-- An instance is run and does not end failed. -/
structure Succeeds (unit : UnitRun σ) : Prop where
  ran : runner.Ran unit.instance_ unit.acts unit.report
  unfailed : Pool.Machine.endsFailed unit.report = false

/-- Instances are cut short at one that is run and ends failed: all before it succeed, and all that come
after it are skipped. -/
inductive UnitsCut : List (UnitRun σ) → Prop
  | at (earlier : List (UnitRun σ)) (failed : UnitRun σ) (later : List (UnitRun σ))
      (hearlier : ∀ unit ∈ earlier, runner.Succeeds unit)
      (hran : runner.Ran failed.instance_ failed.acts failed.report)
      (hfailed : Pool.Machine.endsFailed failed.report = true)
      (hlater : ∀ unit ∈ later, unit.IsSkipped) : UnitsCut (earlier ++ failed :: later)

/-- Visits are cut short in one of them: all instances before it succeed, those of its own feature are cut
short before the hooks after the feature are called, and no hook is called in the visits after it. -/
inductive VisitsCut : List (Visit σ) → Prop
  | at (before : List (Visit σ)) (visit : Visit σ) (after : List (Visit σ))
      (hbefore : ∀ unit ∈ before.flatMap Visit.units, runner.Succeeds unit)
      (hcut : runner.UnitsCut visit.units)
      (hcloses : (runner.afterFeature visit.feature true).Ends visit.closing
        (.finished visit.result.hookErrors))
      (hafter : ∀ visit ∈ after, visit.IsSilent) : VisitsCut (before ++ visit :: after)

end Cut

variable {runner : FeatureRunner σ ω} {features : List Feature} {stop stop' : Bool}
  {visit : Visit σ} {visits : List (Visit σ)} {units : List (UnitRun σ)}

/-! ## Instances -/

theorem UnitsCut.cons {unit : UnitRun σ} (h : runner.Succeeds unit) (cut : runner.UnitsCut units) :
    runner.UnitsCut (unit :: units) := by
  obtain ⟨earlier, failed, later, hearlier, hran, hfailed, hlater⟩ := cut
  exact .at (unit :: earlier) failed later (List.forall_mem_cons.mpr ⟨h, hearlier⟩) hran hfailed hlater

theorem UnitsCut.exists_failed (cut : runner.UnitsCut units) :
    ∃ unit ∈ units, Pool.Machine.endsFailed unit.report = true := by
  obtain ⟨_, failed, _, _, _, hfailed, _⟩ := cut
  exact ⟨failed, List.mem_append_right _ List.mem_cons_self, hfailed⟩

/-- Instances that are started in order all succeed, or they are cut short. -/
theorem UnitsCourse.succeed_or_cut (hfast : runner.options.failFast = true)
    (course : runner.UnitsCourse stop units stop') (hstop : stop = false) :
    (stop' = false ∧ ∀ unit ∈ units, runner.Succeeds unit) ∨
      stop' = true ∧ runner.UnitsCut units := by
  induction course with
  | nil => exact .inl ⟨hstop, nofun⟩
  | skipped => cases hstop
  | @ran unit rest _ ran later ih =>
      rw [hfast, Bool.true_and] at later ih
      by_cases hfailed : Pool.Machine.endsFailed unit.report = true
      · -- The first instance that fails raises the signal, and it stays raised.
        obtain ⟨hstop', hskipped⟩ := later.of_stop hfailed
        exact .inr ⟨hstop', .at [] unit rest nofun ran hfailed hskipped⟩
      · have hsucceeds : runner.Succeeds unit := ⟨ran, by simpa using hfailed⟩
        obtain ⟨hstop', hrest⟩ | ⟨hstop', hcut⟩ := ih hsucceeds.unfailed
        · exact .inl ⟨hstop', List.forall_mem_cons.mpr ⟨hsucceeds, hrest⟩⟩
        · exact .inr ⟨hstop', hcut.cons hsucceeds⟩

/-! ## Visits -/

theorem VisitsCut.cons (h : ∀ unit ∈ visit.units, runner.Succeeds unit)
    (cut : runner.VisitsCut visits) : runner.VisitsCut (visit :: visits) := by
  obtain ⟨before, last, after, hbefore, hcut, hcloses, hafter⟩ := cut
  refine .at (visit :: before) last after ?_ hcut hcloses hafter
  rw [List.flatMap_cons]
  exact List.forall_mem_append.mpr ⟨h, hbefore⟩

/-- A failure of an instance is one of its feature. -/
def Visit.ShowsFailures (visit : Visit σ) : Prop :=
  ∀ unit ∈ visit.units, Pool.Machine.endsFailed unit.report = true →
    visit.result.aggregate.hasFailures = true

theorem Told.showsFailures (hdistinct : runner.HasDistinctKeys visit.feature)
    (told : runner.Told visit.feature (runner.reportsOf visit) visit.result) :
    visit.ShowsFailures := by
  intro unit hunit hfailed
  rw [told.aggregate, Aggregate.hasFailures_ofRecords told.units hdistinct, List.any_eq_true]
  exact ⟨unit.report, List.mem_append_right _ (List.mem_map_of_mem hunit), hfailed⟩

theorem AllTold.showsFailures
    (told : runner.AllTold (visits.map Visit.feature) (visits.map runner.reportsOf)
      (visits.map Visit.result))
    (hdistinct : ∀ visit ∈ visits, runner.HasDistinctKeys visit.feature) :
    ∀ visit ∈ visits, visit.ShowsFailures := by
  induction visits with
  | nil => nofun
  | cons visit visits ih =>
      obtain ⟨hhead, htail⟩ := List.forall_mem_cons.mp hdistinct
      cases told with
      | cons first rest => exact List.forall_mem_cons.mpr ⟨first.showsFailures hhead, ih rest htail⟩

/-- Where no hook before a feature fails, all instances succeed, or the visits are cut short. -/
theorem VisitsCourse.succeed_or_cut (hfast : runner.options.failFast = true)
    (course : runner.VisitsCourse stop visits stop') (hstop : stop = false)
    (hinstances : ∀ visit ∈ visits,
      visit.units.map UnitRun.instance_ = runner.scheduled visit.feature)
    (hrefused : ∀ visit ∈ visits, visit.refused = none)
    (hshows : ∀ visit ∈ visits, visit.ShowsFailures) :
    (stop' = false ∧ ∀ unit ∈ visits.flatMap Visit.units, runner.Succeeds unit) ∨
      stop' = true ∧ runner.VisitsCut visits := by
  induction course with
  | nil => exact .inl ⟨hstop, nofun⟩
  | @cons visit rest stop middle stop' first later ih =>
      rw [List.forall_mem_cons] at hinstances hrefused hshows
      -- What is left of the visits once the instances of this one have all succeeded.
      have hgoes (hmiddle : middle = false) (hunits : ∀ unit ∈ visit.units, runner.Succeeds unit) :
          (stop' = false ∧ ∀ unit ∈ (visit :: rest).flatMap Visit.units, runner.Succeeds unit) ∨
            stop' = true ∧ runner.VisitsCut (visit :: rest) := by
        refine (ih hmiddle hinstances.2 hrefused.2 hshows.2).imp ?_ ?_
        · rintro ⟨hstop', hrest⟩
          exact ⟨hstop', List.forall_mem_append.mpr ⟨hunits, hrest⟩⟩
        · exact fun ⟨hstop', hcut⟩ => ⟨hstop', hcut.cons hunits⟩
      cases first with
      | still hnothing _ _ =>
          have hempty : visit.units = [] := by
            simpa [hnothing.resolve_right (by simp [hstop])] using hinstances.1
          exact hgoes hstop (by simp [hempty])
      | refused _ herror => exact absurd (herror.symm.trans hrefused.1) (by simp)
      | ran _ _ _ hunits hcloses =>
          obtain ⟨hmiddle, hall⟩ | ⟨hmiddle, hcut⟩ := hunits.succeed_or_cut hfast rfl
          · exact hgoes hmiddle hall
          · obtain ⟨hstop', hsilent⟩ := later.silent (.inr hmiddle)
            obtain ⟨unit, hunit, hfailed⟩ := hcut.exists_failed
            rw [Closes, hshows.1 unit hunit hfailed] at hcloses
            exact .inr ⟨hstop'.trans hmiddle, .at [] visit rest nofun hcut hcloses hsilent⟩

/-! ## Runs -/

/-- Where a failure stops the start of further instances, features that are run one after another stop at
the first instance that ends failed. -/
theorem stops_at_first_failure (runner : FeatureRunner σ ω) (features : List Feature)
    (hfast : runner.options.failFast = true) (hworkers : runner.options.workers ≤ 1)
    (hdistinct : ∀ feature ∈ features, runner.HasDistinctKeys feature) (rounds : Nat) (state : σ)
    {runs : FeatureRuns σ} (h : runner.run? rounds false features state = some runs) :
    ∃ visits, runner.Tour false features visits runs ∧
      (Summary.ofResults runs.results).Faithful (visits.map runner.reportsOf).flatten ∧
      (runner.options.dryRun = true → runs.stop = false ∧ ∀ visit ∈ visits, visit.IsSilent) ∧
      (runner.options.dryRun = false → (∀ visit ∈ visits, visit.refused = none) →
        (runs.stop = false ∧ ∀ unit ∈ visits.flatMap Visit.units, runner.Succeeds unit) ∨
          runs.stop = true ∧ runner.VisitsCut visits) := by
  rw [run?_eq_runSequential? hworkers] at h
  obtain ⟨visits, tour⟩ := exists_tour h
  refine ⟨visits, tour, tour.told.faithful_iff.mpr hdistinct, ?_, ?_⟩
  · intro hdry
    exact tour.course.silent (.inl fun _ _ => by simp [scheduled, hdry])
  · intro hdry hrefused
    have hinstances : ∀ visit ∈ visits,
        visit.units.map UnitRun.instance_ = runner.scheduled visit.feature := by
      intro visit hvisit
      simp [tour.instances visit hvisit, scheduled, hdry]
    have told := tour.told
    rw [← tour.order, ← tour.results] at told
    rw [← tour.order] at hdistinct
    have hshows := told.showsFailures (List.forall_mem_map.mp hdistinct)
    exact tour.course.succeed_or_cut hfast rfl hinstances hrefused hshows

/-- A runner as `fragile` that stops at the first failure, with a hook after each feature. -/
def hasty : FeatureRunner PUnit PUnit :=
  { fragile with
    suite := { fragile.suite with
      hooks := Hooks.register {} .afterFeature
        ⟨fun _ => .done (.done (.ok ⟨⟩)), fun _ => .done (.done (.ok ⟨⟩))⟩ [] 0 }
    options := { failFast := true } }

/-- A feature with three scenarios, the second of which fails. -/
def gates : Feature where
  name := "Gates"
  scenarios :=
    [{ name := "opening", steps := [.when "it works"] },
      { name := "closing", steps := [.when "it breaks"] },
      { name := "locking", steps := [.when "it works"] }]

/-- A feature with a scenario that passes. -/
def fences : Feature where
  name := "Fences"
  scenarios := [{ name := "painting", steps := [.when "it works"] }]

theorem stops_at_first_failure_gates :
    ∃ runs visits, hasty.run? 0 false [gates, fences] ⟨⟩ = some runs ∧
      hasty.Tour false [gates, fences] visits runs ∧ hasty.VisitsCut visits ∧
      (Summary.ofResults runs.results).results.map Record.status =
        [.passed, .failed, .skipped, .skipped] := by
  obtain ⟨runs, hruns, hstop, hstatus⟩ :
      ∃ runs, hasty.run? 0 false [gates, fences] ⟨⟩ = some runs ∧ runs.stop = true ∧
        (Summary.ofResults runs.results).results.map Record.status =
          [.passed, .failed, .skipped, .skipped] := ⟨_, by cbv, by cbv, by cbv⟩
  have hkeys : hasty.unitKeys gates =
      [⟨"Gates", "opening"⟩, ⟨"Gates", "closing"⟩, ⟨"Gates", "locking"⟩] := by cbv
  have hkeys' : hasty.unitKeys fences = [⟨"Fences", "painting"⟩] := by cbv
  have hdistinct : ∀ feature ∈ [gates, fences], hasty.HasDistinctKeys feature := by
    simp [HasDistinctKeys, hkeys, hkeys']
  obtain ⟨visits, tour, _, _, hwet⟩ :=
    stops_at_first_failure hasty [gates, fences] rfl (by decide) hdistinct 0 ⟨⟩ hruns
  have hbefore (feature : Feature) : hasty.beforeFeature feature = .done none := by
    simp [beforeFeature, hasty, Suite.hooksFor, Hooks.list, Hooks.register, Suite.runHooks, bind,
      pure]
  have hrefused : ∀ visit ∈ visits, visit.refused = none := by
    apply tour.course.refused_eq_none
    intro visit _ acts error hends
    rw [hbefore] at hends
    cases (Task.ends_done.mp hends).2
  obtain ⟨hgoes, _⟩ | ⟨_, hcut⟩ := hwet rfl hrefused
  · exact absurd (hgoes.symm.trans hstop) Bool.false_ne_true
  · exact ⟨runs, visits, hruns, tour, hcut, hstatus⟩

end Acceptance.FeatureRunner
