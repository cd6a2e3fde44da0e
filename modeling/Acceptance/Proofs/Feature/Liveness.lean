import Acceptance.Proofs.Feature.Interleaving

/-!
# Runs that come to an end

Where neither hooks around features nor scenarios hang, and no such hook crashes, features that are run
one after another come to an end, and a pool can always be continued until it hands back what has become
of its features.
-/

namespace Acceptance.FeatureRunner

open Pool (Machine)

variable {σ ω : Type} {runner : FeatureRunner σ ω} {features : List Feature}

/-- Nothing keeps features from coming to an end: no unit ever hangs, and the hooks around features, which
a run may have to call by itself, never crash. -/
structure IsLive (runner : FeatureRunner σ ω) (features : List Feature) : Prop where
  units : runner.UnitsAvoid features .hang
  calm : runner.HooksAvoid features .crash

/-! ## One after another -/

section Sequential

/-- An instance that is run by itself never crashes. -/
theorem avoids_crash_runInstance (instance_ : Instance) : (runner.runInstance instance_).Avoids .crash := by
  refine (Task.avoids_crash_caught _).bind ?_
  rintro (panic | records)
  · exact Task.avoids_now.bind fun _ => Task.avoids_done _
  · exact Task.avoids_done _

theorem avoids_runInstance {mishap : Task.Mishap} {instance_ : Instance}
    (hrun : (runner.run instance_).Avoids mishap) : (runner.runInstance instance_).Avoids mishap := by
  refine hrun.caught.bind ?_
  rintro (panic | records)
  · exact Task.avoids_now.bind fun _ => Task.avoids_done _
  · exact Task.avoids_done _

variable {mishap : Task.Mishap}

theorem avoids_runInstances {instances : List Instance}
    (hrun : ∀ instance_ ∈ instances, (runner.runInstance instance_).Avoids mishap) (stop : Bool) :
    (runner.runInstances stop instances).Avoids mishap := by
  induction instances generalizing stop with
  | nil => exact Task.avoids_done _
  | cons instance_ rest ih =>
      obtain ⟨hhead, htail⟩ := List.forall_mem_cons.mp hrun
      unfold runInstances
      dsimp only
      split
      · refine Task.avoids_now.bind fun _ => (Task.avoids_done _).bind fun _ => ?_
        exact (ih htail _).bind fun _ => Task.avoids_done _
      · exact hhead.bind fun _ => (ih htail _).bind fun _ => Task.avoids_done _

/-- A feature meets with no mishap but those of its hooks, and of its instances where the hooks before it
let them run. -/
theorem avoids_runFeature {feature : Feature} (hooks : runner.HooksAvoid features mishap)
    (hfeature : feature ∈ features)
    (hrun : (∃ acts, (runner.beforeFeature feature).Ends acts (.finished none)) →
      ∀ instance_ ∈ runner.scheduled feature, (runner.runInstance instance_).Avoids mishap)
    (stop : Bool) : (runner.runFeature stop feature).Avoids mishap := by
  unfold runFeature
  refine Task.avoids_now.bind fun now => ?_
  rw [select_eq]
  dsimp only
  split
  · exact Task.avoids_done _
  next hsome =>
    have hscheduled : runner.scheduled feature ≠ [] := by simpa using hsome
    have hafter := hooks.after feature hfeature hscheduled
    split
    · exact Task.avoids_done _
    · refine (hooks.before feature hfeature hscheduled).bind_of_ends fun acts refused hends => ?_
      cases refused with
      | none =>
          refine (avoids_runInstances (hrun ⟨acts, hends⟩) stop).bind fun _ => ?_
          exact (Task.avoids_done _).bind fun _ => (hafter _).bind fun _ => Task.avoids_done _
      | some error =>
          refine Task.avoids_now.bind fun _ => (Task.avoids_done _).bind fun _ => ?_
          exact (hafter _).bind fun _ => Task.avoids_done _

theorem avoids_runFeatures
    (hfeatures : ∀ feature ∈ features, ∀ stop, (runner.runFeature stop feature).Avoids mishap)
    (stop : Bool) : (runner.runFeatures stop features).Avoids mishap := by
  induction features generalizing stop with
  | nil => exact Task.avoids_done _
  | cons feature features ih =>
      obtain ⟨hhead, htail⟩ := List.forall_mem_cons.mp hfeatures
      exact (hhead stop).bind fun _ => (ih htail _).bind fun _ => Task.avoids_done _

/-- Where nothing hangs, features that are run one after another come to an end. -/
theorem IsLive.exists_runSequential? (live : runner.IsLive features) (stop : Bool) (state : σ) :
    ∃ runs, runner.runSequential? stop features state = some runs := by
  have hcrash : (runner.runFeatures stop features).Avoids .crash :=
    avoids_runFeatures (fun _ hfeature => avoids_runFeature live.calm hfeature
      fun _ _ _ => avoids_crash_runInstance _) stop
  have hhang : (runner.runFeatures stop features).Avoids .hang :=
    avoids_runFeatures (fun feature hfeature => avoids_runFeature live.units.hooks hfeature
      fun hends instance_ hinstance =>
        avoids_runInstance (live.units.scenarios feature hfeature hends instance_ hinstance)) stop
  obtain ⟨acts, hends, _⟩ := Task.run_ends (runner.runFeatures stop features) 0 state
  obtain ⟨results, hresults⟩ := hends.exists_finished hcrash hhang
  unfold runSequential?
  dsimp only
  rw [hresults]
  exact ⟨_, rfl⟩

end Sequential

/-! ## On a pool -/

theorem avoids_collect {mishap : Task.Mishap} (hooks : runner.HooksAvoid features mishap)
    (machine : Machine (σ × List Slot) (Option HookError)) (first : Nat)
    (pairs : List (Selected × Slot))
    (hpairs : ∀ pair ∈ pairs, ∃ feature ∈ features, pair.1 = runner.selected feature) :
    (runner.collect machine first pairs).Avoids mishap := by
  induction pairs generalizing first with
  | nil => exact Task.avoids_done _
  | cons pair rest ih =>
      obtain ⟨selected, slot⟩ := pair
      obtain ⟨⟨feature, hfeature, heq⟩, hrest⟩ := List.forall_mem_cons.mp hpairs
      cases heq
      unfold collect
      dsimp only
      split
      next hlate =>
        have hscheduled : runner.scheduled feature ≠ [] := by
          intro hnil
          simp [hnil] at hlate
        exact (hooks.after feature hfeature hscheduled _).bind fun _ =>
          (ih _ hrest).bind fun _ => Task.avoids_done _
      · exact (Task.avoids_done _).bind fun _ => (ih _ hrest).bind fun _ => Task.avoids_done _

/-- Where nothing hangs, a pool can be continued until it hands back what has become of its features. -/
theorem IsLive.exists_runs (live : runner.IsLive features) (schedule : List Pool.Turn) (stop : Bool)
    (state : σ) :
    ∃ later : List Pool.Turn, (∀ turn ∈ later, turn.stops = false) ∧
      ∃ runs, runner.runScheduled? (schedule ++ later) stop features state = some runs := by
  obtain ⟨later, hstops, hcomplete⟩ : ∃ later : List Pool.Turn, (∀ turn ∈ later, turn.stops = false) ∧
      (runner.pooledMachine features (schedule ++ later) stop state).isComplete = true :=
    live.units.exists_isComplete stop
  refine ⟨later, hstops, ?_⟩
  have hpooled : runner.runScheduled? (schedule ++ later) stop features state =
      runner.pooledResult? (runner.selectAll features)
        (runner.pooledMachine features (schedule ++ later) stop state) := rfl
  rw [hpooled, pooledResult?, if_pos hcomplete]
  generalize runner.pooledMachine features (schedule ++ later) stop state = machine
  obtain ⟨acts, hends, _⟩ := Task.run_ends (runner.collect machine 0
    ((runner.selectAll features).zip machine.shared.2)) machine.time machine.shared.1
  have hpairs : ∀ pair ∈ (runner.selectAll features).zip machine.shared.2,
      ∃ feature ∈ features, pair.1 = runner.selected feature := by
    rintro ⟨selected, slot⟩ hpair
    rw [selectAll_eq] at hpair
    obtain ⟨feature, hfeature, heq⟩ := List.mem_map.mp (List.of_mem_zip hpair).1
    exact ⟨feature, hfeature, heq.symm⟩
  obtain ⟨results, hresults⟩ := hends.exists_finished
    (avoids_collect live.calm machine 0 _ hpairs) (avoids_collect live.units.hooks machine 0 _ hpairs)
  dsimp only
  rw [hresults]
  exact ⟨_, rfl⟩

end Acceptance.FeatureRunner
