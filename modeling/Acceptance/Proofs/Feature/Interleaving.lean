import Acceptance.Proofs.Feature.Undisturbed
import Acceptance.Proofs.Pool.Progress

/-!
# Interleavings

The summary of features that run on a pool is the one of a single worker, in whatever order the
workers of the pool are polled, as long as everything that is given from outside is steady, no
unit crashes, and no two units of a feature have the same key. A pool whose hooks and scenarios
end also comes to its end, whatever its workers have done so far.
-/

namespace Acceptance.FeatureRunner

open Pool (Machine)

variable {σ ω : Type} {runner : FeatureRunner σ ω} {features : List Feature}

/-! ## Units that avoid a mishap -/

/-- No scenario that the hooks before its feature let run ever meets with a mishap. -/
def ScenariosAvoid (runner : FeatureRunner σ ω) (features : List Feature) (mishap : Task.Mishap) :
    Prop :=
  ∀ feature ∈ features, (∃ acts, (runner.beforeFeature feature).Ends acts (.finished none)) →
    ∀ instance_ ∈ runner.scheduled feature, (runner.run instance_).Avoids mishap

/-- No unit of a pool ever meets with a mishap, neither in its scenario nor in the hooks around its
feature, which units call. -/
structure UnitsAvoid (runner : FeatureRunner σ ω) (features : List Feature) (mishap : Task.Mishap) :
    Prop where
  hooks : runner.HooksAvoid features mishap
  scenarios : runner.ScenariosAvoid features mishap

/-- Where no unit crashes no call of one does. -/
theorem UnitsAvoid.not_called (calm : runner.UnitsAvoid features .crash)
    {job : Pool.Job (σ × List Slot) (Option HookError)} (hjob : job ∈ (runner.planOf features).jobs)
    (events : List Event) (panic : Panic) :
    ¬ Pool.Called ((runner.selectAll features).map fun selected =>
      (runner.beforeFeature selected.feature).onFirst) job events (.crashed panic) := by
  obtain ⟨unit, hunit⟩ := List.getElem?_of_mem hjob
  obtain ⟨index, feature, instance_, hinstance, hfeature, rfl⟩ := exists_of_job hunit
  have hmem := List.mem_of_getElem? hfeature
  have hscheduled := List.ne_nil_of_mem hinstance
  rintro (⟨⟨task, before, refused, htask, hbefore, rfl⟩, hends, _⟩ | ⟨hgate, htask, hends, _⟩)
  · obtain rfl := gate_eq hfeature htask
    obtain ⟨own, hown, _⟩ := hbefore.of_onFirst
    obtain ⟨rfl, acts, hcrashed⟩ := crashed_of_ends (calm.hooks.after feature hmem hscheduled) hends
    exact calm.scenarios feature hmem ⟨own, hown⟩ instance_ hinstance acts _ hcrashed rfl
  · cases hgate
    obtain rfl := gate_eq hfeature htask
    exact (calm.hooks.before feature hmem hscheduled).onFirst _ _ hends rfl

/-- Where no unit hangs nothing on a pool does. -/
theorem UnitsAvoid.neverHangs (live : runner.UnitsAvoid features .hang) :
    Pool.NeverHangs (runner.planOf features) ((runner.selectAll features).map fun selected =>
      (runner.beforeFeature selected.feature).onFirst) where
  tasks := by
    intro job hjob index hindex task htask
    obtain ⟨unit, hunit⟩ := List.getElem?_of_mem hjob
    obtain ⟨found, feature, instance_, hinstance, hfeature, rfl⟩ := exists_of_job hunit
    cases hindex
    obtain rfl := gate_eq hfeature htask
    exact (live.hooks.before feature (List.mem_of_getElem? hfeature)
      (List.ne_nil_of_mem hinstance)).onFirst
  bodies := by
    intro job hjob opened hpasses
    obtain ⟨unit, hunit⟩ := List.getElem?_of_mem hjob
    obtain ⟨index, feature, instance_, hinstance, hfeature, rfl⟩ := exists_of_job hunit
    obtain ⟨task, before, refused, htask, hbefore, rfl⟩ := hpasses
    obtain rfl := gate_eq hfeature htask
    obtain ⟨own, hown, _⟩ := hbefore.of_onFirst
    have hmem := List.mem_of_getElem? hfeature
    refine avoids_runUnit (fun hnone => ?_)
      (live.hooks.after feature hmem (List.ne_nil_of_mem hinstance))
    cases (show refused = none from hnone)
    exact live.scenarios feature hmem ⟨own, hown⟩ instance_ hinstance
  gated := by
    intro job hjob index hindex
    obtain ⟨unit, hunit⟩ := List.getElem?_of_mem hjob
    obtain ⟨found, feature, instance_, _, hfeature, rfl⟩ := exists_of_job hunit
    cases hindex
    simpa [selectAll_eq] using (List.getElem?_eq_some_iff.mp hfeature).1

section Schedules

variable {schedule : List Pool.Turn} {state : σ}

/-- A pool that is done and undisturbed has a summary. -/
theorem Undisturbed.exists_runs {books : Books} (done : runner.Undisturbed features
      (runner.pooledMachine features schedule false state) books)
    (hcomplete : (runner.pooledMachine features schedule false state).isComplete = true) :
    ∃ runs, runner.runScheduled? schedule false features state = some runs := by
  obtain ⟨results, hresults⟩ := done.exists_collect 0
  rw [← selectAll_eq] at hresults
  have hpooled : runner.runScheduled? schedule false features state =
      runner.pooledResult? (runner.selectAll features)
        (runner.pooledMachine features schedule false state) := rfl
  rw [hpooled, pooledResult?, if_pos hcomplete, hresults]
  exact ⟨_, rfl⟩

/-- A pool that is done is undisturbed where units are calm and nothing stops the start of units. -/
theorem exists_undisturbed (calm : runner.UnitsAvoid features .crash)
    (hfast : runner.options.failFast = false) (hstops : ∀ turn ∈ schedule, turn.stops = false)
    (hcomplete : (runner.pooledMachine features schedule false state).isComplete = true) :
    ∃ books, runner.Undisturbed features (runner.pooledMachine features schedule false state) books := by
  obtain ⟨books, ledger⟩ : ∃ books, runner.Ledger features
      (runner.pooledMachine features schedule false state) books := exists_ledger schedule false state
  refine ⟨books, ledger, fun unit job hjob => ?_⟩
  exact (sound_pooledMachine ..).returned (Pool.width_pos _ _) hcomplete
    (fun _ hmem => calm.not_called hmem) (stop_pooledMachine hfast hstops) hjob

/-- Where a pool is done, it has a summary, and a single worker comes to the same one, but for
times. -/
theorem exists_same_summary (steady : runner.Steady) (calm : runner.UnitsAvoid features .crash)
    (hdistinct : ∀ feature ∈ features, runner.HasDistinctKeys feature)
    (hfast : runner.options.failFast = false) (hstops : ∀ turn ∈ schedule, turn.stops = false)
    (hcomplete : (runner.pooledMachine features schedule false state).isComplete = true)
    (rounds : Nat) :
    ∃ pooled single, runner.runScheduled? schedule false features state = some pooled ∧
      (runner.withWorkers 1).run? rounds false features state = some single ∧
      (Summary.ofResults pooled.results).untimed = (Summary.ofResults single.results).untimed ∧
      (Summary.ofResults pooled.results).results.map Record.key = features.flatMap runner.unitKeys := by
  obtain ⟨books, done⟩ := exists_undisturbed calm hfast hstops hcomplete
  obtain ⟨pooled, hpooled⟩ := done.exists_runs hcomplete
  obtain ⟨_, _, collected, _⟩ := collected_of_runScheduled? hpooled
  have outcomes := done.outcomes hdistinct collected (remaining_all features) rfl
  obtain ⟨single, hsingle, _, hsame⟩ := exists_runSequential? steady hfast outcomes hdistinct state
  refine ⟨pooled, single, hpooled, (run?_one rounds false features state).trans hsingle, ?_, ?_⟩
  · rw [Summary.untimed_ofResults, Summary.untimed_ofResults, hsame]
  · rw [Summary.results_ofResults, (allTold_of_runScheduled? hpooled).keys_eq hdistinct]

/-- Where no unit hangs, a pool comes to its end, whatever its workers have done so far. -/
theorem UnitsAvoid.exists_isComplete (live : runner.UnitsAvoid features .hang) (stop : Bool) :
    ∃ later : List Pool.Turn, (∀ turn ∈ later, turn.stops = false) ∧
      (runner.pooledMachine features (schedule ++ later) stop state).isComplete = true := by
  obtain ⟨later, hstops, hcomplete⟩ :=
    (sound_pooledMachine runner features schedule stop state).exists_isComplete live.neverHangs
  refine ⟨later, hstops, ?_⟩
  rw [pooledMachine, Machine.runSchedule_append]
  exact hcomplete

/-- Where steady scenarios have been seen to end with a value, they always do. -/
theorem scenariosAvoid_of_steady (steady : runner.Steady) (time : Nat) (state : σ)
    (h : ∀ feature ∈ features, ∀ instance_ ∈ runner.scheduled feature,
      ((runner.run instance_).run time state).ending.value?.isSome = true) (mishap : Task.Mishap) :
    runner.ScenariosAvoid features mishap := by
  intro feature hfeature _ instance_ hinstance acts ending hends'
  have hvalue := h feature hfeature instance_ hinstance
  obtain ⟨own, hends, _⟩ := Task.run_ends (runner.run instance_) time state
  cases hending : ((runner.run instance_).run time state).ending with
  | finished records =>
      rw [hending] at hends
      obtain ⟨_, rfl, _⟩ := (steady.run instance_).finished hends hends'
      simp [Task.Ending.mishap?]
  | crashed panic =>
      rw [hending] at hvalue
      cases hvalue
  | hung =>
      rw [hending] at hvalue
      cases hvalue

end Schedules

/-- The summary of a run on a pool is that of a run with a single worker, but for times, whatever the
number of workers and in whatever order they take turns. The final records come feature by feature,
those of templates that cannot be expanded before those of instances. Where nothing hangs, every
order of turns can be continued until the pool is done. -/
theorem pooled_summary_eq (steady : runner.Steady) (calm : runner.UnitsAvoid features .crash)
    (hdistinct : ∀ feature ∈ features, runner.HasDistinctKeys feature)
    (hfast : runner.options.failFast = false) {schedule : List Pool.Turn} {state : σ}
    (hstops : ∀ turn ∈ schedule, turn.stops = false) (rounds : Nat) :
    ((runner.pooledMachine features schedule false state).isComplete = true →
      ∃ pooled single, runner.runScheduled? schedule false features state = some pooled ∧
        (runner.withWorkers 1).run? rounds false features state = some single ∧
        (Summary.ofResults pooled.results).untimed = (Summary.ofResults single.results).untimed ∧
        (Summary.ofResults pooled.results).results.map Record.key =
          features.flatMap runner.unitKeys) ∧
    (runner.UnitsAvoid features .hang →
      ∃ later : List Pool.Turn, (∀ turn ∈ later, turn.stops = false) ∧
        (runner.pooledMachine features (schedule ++ later) false state).isComplete = true) :=
  ⟨fun hcomplete => exists_same_summary steady calm hdistinct hfast hstops hcomplete rounds,
    fun live => live.exists_isComplete false⟩

/-! ## A pool at work -/

/-- A runner with two workers, and worlds that let others go on while they are made. Its fallback takes
over every step and fails those that say so, and the hook after each feature fails. -/
def unhurried : FeatureRunner PUnit PUnit where
  suite :=
    { hooks := Hooks.register {} .afterFeature
        { withWorld := fun _ => .done (.done (.ok ⟨⟩))
          alone := fun _ => .done (.done (.error "still open")) } [] 0
      fallback := some fun context =>
        .done (some (.done (if context.text = "it breaks" then .error "broken" else .ok ⟨⟩)))
      newWorld := .done (.pause (.done (.ok ⟨⟩))) }
  options := { workers := 2 }
  strategy := .unconditional
  source := none

/-- A feature with two scenarios, the first of which fails. -/
def windows : Feature where
  name := "Windows"
  scenarios :=
    [{ name := "opening", steps := [.when "it breaks"] },
      { name := "closing", steps := [.when "it works"] }]

/-- Turns in which the second of two workers is always ahead of the first. -/
def overtaking : List Pool.Turn :=
  [⟨0, 1, false⟩, ⟨1, 1, false⟩, ⟨1, 1, false⟩, ⟨0, 1, false⟩, ⟨1, 1, false⟩, ⟨0, 1, false⟩]

theorem steady_unhurried : unhurried.Steady where
  world := (Task.isSteady_done _).pause
  withWorld := by
    intro hook hmem context world
    cases List.mem_singleton.mp hmem
    exact Task.isSteady_done _
  alone := by
    intro hook hmem context
    cases List.mem_singleton.mp hmem
    exact Task.isSteady_done _
  handler := nofun
  fallback := by
    rintro _ ⟨rfl⟩ context world
    exact Task.isSteady_done _
  offered := by
    rintro _ ⟨rfl⟩ context world acts handler world' hends
    cases (Task.ends_done.mp hends).2
    exact Task.isSteady_done _
  strategy := fun _ _ => Task.isSteady_done _
  drop := fun _ => Task.isSteady_done _

theorem scenariosAvoid_unhurried (mishap : Task.Mishap) :
    unhurried.ScenariosAvoid [windows] mishap := by
  have hall : (unhurried.scheduled windows).all (fun instance_ =>
      ((unhurried.run instance_).run 0 ⟨⟩).ending.value?.isSome) = true := by cbv
  refine scenariosAvoid_of_steady steady_unhurried 0 ⟨⟩ ?_ mishap
  rw [List.forall_mem_singleton]
  exact List.all_eq_true.mp hall

theorem isAnswered_unhurried :
    ∀ hook ∈ unhurried.suite.hooks.entries, ∀ context, (hook.action.alone context).IsAnswered := by
  intro hook hmem context
  cases List.mem_singleton.mp hmem
  exact Task.isAnswered_done (Task.avoids_done _)

theorem unitsAvoid_unhurried (mishap : Task.Mishap) : unhurried.UnitsAvoid [windows] mishap :=
  ⟨hooksAvoid_of_answered isAnswered_unhurried _ mishap, scenariosAvoid_unhurried mishap⟩

theorem hasDistinctKeys_windows : unhurried.HasDistinctKeys windows := by
  have hkeys : unhurried.unitKeys windows = [⟨"Windows", "opening"⟩, ⟨"Windows", "closing"⟩] := by cbv
  rw [HasDistinctKeys, hkeys]
  decide

theorem pooled_summary_eq_overtaking :
    (∃ pooled single, unhurried.runScheduled? overtaking false [windows] ⟨⟩ = some pooled ∧
      (unhurried.withWorkers 1).run? 0 false [windows] ⟨⟩ = some single ∧
      (Summary.ofResults pooled.results).untimed = (Summary.ofResults single.results).untimed ∧
      (Summary.ofResults pooled.results).results.map Record.key =
        [⟨"Windows", "opening"⟩, ⟨"Windows", "closing"⟩]) ∧
    ∃ later : List Pool.Turn, (∀ turn ∈ later, turn.stops = false) ∧
      (unhurried.pooledMachine [windows] (overtaking.take 2 ++ later) false ⟨⟩).isComplete = true := by
  have hdistinct := List.forall_mem_singleton.mpr hasDistinctKeys_windows
  have hcalm := unitsAvoid_unhurried .crash
  constructor
  · have hcomplete :
        (unhurried.pooledMachine [windows] overtaking false ⟨⟩).isComplete = true := by cbv
    obtain ⟨pooled, single, hpooled, hsingle, hsame, hkeys⟩ :=
      (pooled_summary_eq steady_unhurried hcalm hdistinct rfl (by decide) 0).1 hcomplete
    refine ⟨pooled, single, hpooled, hsingle, hsame, hkeys.trans ?_⟩
    cbv
  · exact (pooled_summary_eq steady_unhurried hcalm hdistinct rfl (by decide) 0).2
      (unitsAvoid_unhurried .hang)

end Acceptance.FeatureRunner
