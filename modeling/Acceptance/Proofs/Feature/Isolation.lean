import Acceptance.Proofs.Feature.CutOff
import Acceptance.Proofs.Feature.Liveness

/-!
# Failures that stay with their scenario

Two runs of the same features in which all is done alike, but for what is called for one instance, have the
same results for all others, whatever becomes of that one. Only on a pool a crash has consequences: what is
left of the queue of its worker is skipped.
-/

namespace Acceptance.FeatureRunner

variable {σ ω : Type} {left right : FeatureRunner σ ω} {features : List Feature} {place : Place}

/-- Two runs of the same features that differ only in what is called for the instance at one place have
the same final records at all other places, but for their times, whatever becomes of that instance. On a
pool where no hook around a feature crashes, in whatever order the workers take turns in the two runs, a
crash at that place makes the records of other places differ only in that they are skipped, and only
those of units behind it in its queue. Where nothing hangs, such runs come to an end. -/
theorem failure_isolated (differ : left.DiffersAt right features place)
    (hdistinct : ∀ feature ∈ features, left.HasDistinctKeys feature)
    (hfast : left.options.failFast = false) :
    (∀ state state' runs runs', left.runSequential? false features state = some runs →
      right.runSequential? false features state' = some runs' →
        PlaceByPlace (left.resultPlaces features) (SameBut place)
          (Summary.ofResults runs.results).results (Summary.ofResults runs'.results).results) ∧
    (left.HooksAvoid features .crash → right.HooksAvoid features .crash →
      ∀ schedule schedule' state state' runs runs',
      (∀ turn ∈ schedule ++ schedule', turn.stops = false) →
      left.runScheduled? schedule false features state = some runs →
      right.runScheduled? schedule' false features state' = some runs' →
        PlaceByPlace (left.resultPlaces features)
          (SameOrCutOff left features (left.pooledMachine features schedule false state)
            (right.pooledMachine features schedule' false state') place)
          (Summary.ofResults runs.results).results (Summary.ofResults runs'.results).results ∧
        ((∀ unit, (left.unitPlaces features)[unit]? = some place →
            .crashed unit ∉ (left.pooledMachine features schedule false state).trace ∧
              .crashed unit ∉ (right.pooledMachine features schedule' false state').trace) →
          PlaceByPlace (left.resultPlaces features) (SameBut place)
            (Summary.ofResults runs.results).results (Summary.ofResults runs'.results).results)) ∧
    (∀ runner ∈ [left, right], runner.IsLive features →
      ∀ state, (∃ runs, runner.runSequential? false features state = some runs) ∧
        ∀ schedule, ∃ later : List Pool.Turn, (∀ turn ∈ later, turn.stops = false) ∧
          ∃ runs, runner.runScheduled? (schedule ++ later) false features state = some runs) := by
  refine ⟨?_, ?_, ?_⟩
  · intro state state' runs runs' h h'
    exact differ.placeByPlace_runSequential? hdistinct hfast h h'
  · intro calm calm' schedule schedule' state state' runs runs' hstops h h'
    obtain ⟨hstops, hstops'⟩ := List.forall_mem_append.mp hstops
    have hplaces := differ.placeByPlace_runScheduled? calm calm' hdistinct hfast hstops hstops' h h'
    refine ⟨hplaces, fun hcalm => ?_⟩
    exact { hplaces with related := hplaces.related.imp fun _ _ _ hrelated => hrelated.sameBut hcalm }
  · intro runner _ live state
    exact ⟨live.exists_runSequential? false state, fun schedule => live.exists_runs schedule false state⟩

/-! ## A crash with others behind it -/

/-- A runner with two workers and a fallback that takes over every step. What it does at the steps that say
so is left open. -/
def wired (faulty : Task (PUnit × PUnit) Event (Option (Task (PUnit × PUnit) Event Reply))) :
    FeatureRunner PUnit PUnit where
  suite :=
    { fallback := some fun context =>
        if context.text = "it blows" then faulty else .done (some (.done (.ok ⟨⟩)))
      newWorld := .done (.pause (.done (.ok ⟨⟩))) }
  options := { workers := 2 }
  strategy := .unconditional
  source := none

/-- A feature with three scenarios, the first of which has a step that may be faulty. -/
def fuses : Feature where
  name := "Fuses"
  scenarios :=
    [{ name := "first", steps := [.when "it blows"] }, { name := "second", steps := [.when "it holds"] },
      { name := "third", steps := [.when "it holds"] }]

/-- The place of the scenario with the step that may be faulty. -/
def firstFuse : Place := ⟨0, ⟨"Fuses", "first"⟩⟩

section Wired

variable {faulty faulty' : Task (PUnit × PUnit) Event (Option (Task (PUnit × PUnit) Event Reply))}

theorem hooksFor_wired (phase : Phase) (context : HookContext) :
    (wired faulty).suite.hooksFor phase context = [] := by
  simp [Suite.hooksFor, Hooks.list, wired]

theorem hooksAvoid_wired (features : List Feature) (mishap : Task.Mishap) :
    (wired faulty).HooksAvoid features mishap :=
  hooksAvoid_of_answered (fun _ hmem => absurd hmem List.not_mem_nil) features mishap

/-- A scenario without a step that may be faulty does not notice what happens at such steps. -/
theorem alike_wired {instance_ : Instance}
    (hsteps : ∀ step, ScenarioRunner.HasStep instance_ step → step.text ≠ "it blows") :
    (wired faulty).toScenarioRunner.Alike (wired faulty').toScenarioRunner instance_ fun _ => True where
  newWorld := (Task.isSteady_iff_agree.mp (Task.isSteady_done _).pause).mono fun _ _ hsame =>
    ⟨hsame, fun _ _ => trivial⟩
  withWorld := by
    intro phase context _
    rw [Suite.AgreeWithWorld, hooksFor_wired, hooksFor_wired]
    exact .nil
  alone := by
    intro context _
    rw [Suite.AgreeAlone, hooksFor_wired, hooksFor_wired]
    exact .nil
  handler := by
    intro step _ found found' hfound
    simp [wired, Definitions.resolveStep?, Definitions.resolve?, Definitions.inOrder] at hfound
  fallback := by
    intro step hstep _ attempt
    refine .some fun world _ => ?_
    have htext : (ScenarioRunner.stepContext step (Argument.attachments step) attempt).text ≠
        "it blows" := hsteps step hstep
    rw [if_neg htext, if_neg htext]
    exact .done (.taken (.done ⟨rfl, trivial⟩))
  strategy := fun _ _ _ => .done rfl
  drop := fun _ _ => .done rfl

theorem differsAt_wired : (wired faulty).DiffersAt (wired faulty') [fuses] firstFuse where
  corresponds := ⟨rfl, rfl⟩
  source := rfl
  beforeFeature := by
    intro feature _
    rw [Suite.AgreeAlone, hooksFor_wired, hooksFor_wired]
    exact .nil
  others := by
    intro index feature hfeature instance_ hinstance hne
    -- No scenario at another place has a step that may be faulty.
    have hall : ((wired faulty).scheduled fuses).all (fun instance_ =>
        decide (Place.mk 0 instance_.key = firstFuse) ||
          instance_.allSteps.all fun step => decide (step.1.text ≠ "it blows")) = true := by cbv
    cases index with
    | succ index => cases hfeature
    | zero =>
        cases hfeature
        refine ⟨_, alike_wired ?_⟩
        have hsteps := List.all_eq_true.mp hall instance_ hinstance
        rw [Bool.or_eq_true_iff, decide_eq_true_iff, or_iff_right hne, List.all_eq_true] at hsteps
        rintro step ⟨background, hstep⟩
        exact of_decide_eq_true (hsteps _ hstep)

end Wired

/-- The runner whose fallback takes over the faulty step too. -/
def intact : FeatureRunner PUnit PUnit := wired (.done (some (.done (.ok ⟨⟩))))

/-- The runner whose fallback crashes at the faulty step. -/
def blown : FeatureRunner PUnit PUnit := wired (.crash .unprintable)

/-- Turns in which two workers alternate. -/
def alternating : List Pool.Turn :=
  [⟨0, 1, false⟩, ⟨1, 1, false⟩, ⟨0, 1, false⟩, ⟨1, 1, false⟩, ⟨0, 1, false⟩, ⟨1, 1, false⟩,
    ⟨0, 1, false⟩, ⟨0, 1, false⟩]

/-- Turns in which the second of two workers is done before the first one begins. -/
def lopsided : List Pool.Turn :=
  [⟨1, 1, false⟩, ⟨1, 1, false⟩, ⟨1, 1, false⟩, ⟨0, 1, false⟩, ⟨0, 1, false⟩, ⟨0, 1, false⟩]

theorem hasDistinctKeys_fuses : intact.HasDistinctKeys fuses := by
  have hkeys : intact.unitKeys fuses =
      [⟨"Fuses", "first"⟩, ⟨"Fuses", "second"⟩, ⟨"Fuses", "third"⟩] := by cbv
  rw [HasDistinctKeys, hkeys]
  decide

/-- One after another the others pass whether the first scenario passes or crashes. On a pool the third one,
which is in the queue of the first, is skipped after the crash. -/
theorem failure_isolated_fuses :
    (∃ runs runs', intact.runSequential? false [fuses] ⟨⟩ = some runs ∧
      blown.runSequential? false [fuses] ⟨⟩ = some runs' ∧
      (Summary.ofResults runs.results).results.map Record.status = [.passed, .passed, .passed] ∧
      (Summary.ofResults runs'.results).results.map Record.status = [.failed, .passed, .passed] ∧
      PlaceByPlace (intact.resultPlaces [fuses]) (SameBut firstFuse)
        (Summary.ofResults runs.results).results (Summary.ofResults runs'.results).results) ∧
    (∃ runs runs', intact.runScheduled? alternating false [fuses] ⟨⟩ = some runs ∧
      blown.runScheduled? lopsided false [fuses] ⟨⟩ = some runs' ∧
      (Summary.ofResults runs.results).results.map Record.status = [.passed, .passed, .passed] ∧
      (Summary.ofResults runs'.results).results.map Record.status = [.failed, .passed, .skipped] ∧
      PlaceByPlace (intact.resultPlaces [fuses])
        (SameOrCutOff intact [fuses] (intact.pooledMachine [fuses] alternating false ⟨⟩)
          (blown.pooledMachine [fuses] lopsided false ⟨⟩) firstFuse)
        (Summary.ofResults runs.results).results (Summary.ofResults runs'.results).results) := by
  have differ : intact.DiffersAt blown [fuses] firstFuse := differsAt_wired
  have hdistinct := List.forall_mem_singleton.mpr hasDistinctKeys_fuses
  constructor
  · obtain ⟨runs, h, hstatus⟩ : ∃ runs, intact.runSequential? false [fuses] ⟨⟩ = some runs ∧
        (Summary.ofResults runs.results).results.map Record.status = [.passed, .passed, .passed] :=
      ⟨_, by cbv, by cbv⟩
    obtain ⟨runs', h', hstatus'⟩ : ∃ runs', blown.runSequential? false [fuses] ⟨⟩ = some runs' ∧
        (Summary.ofResults runs'.results).results.map Record.status = [.failed, .passed, .passed] :=
      ⟨_, by cbv, by cbv⟩
    exact ⟨runs, runs', h, h', hstatus, hstatus',
      (failure_isolated differ hdistinct rfl).1 ⟨⟩ ⟨⟩ runs runs' h h'⟩
  · obtain ⟨runs, h, hstatus⟩ : ∃ runs, intact.runScheduled? alternating false [fuses] ⟨⟩ = some runs ∧
        (Summary.ofResults runs.results).results.map Record.status = [.passed, .passed, .passed] :=
      ⟨_, by cbv, by cbv⟩
    obtain ⟨runs', h', hstatus'⟩ : ∃ runs', blown.runScheduled? lopsided false [fuses] ⟨⟩ = some runs' ∧
        (Summary.ofResults runs'.results).results.map Record.status = [.failed, .passed, .skipped] :=
      ⟨_, by cbv, by cbv⟩
    have isolated := (failure_isolated differ hdistinct rfl).2.1 (hooksAvoid_wired _ _)
      (hooksAvoid_wired _ _) alternating lopsided ⟨⟩ ⟨⟩ runs runs' (by decide) h h'
    exact ⟨runs, runs', h, h', hstatus, hstatus', isolated.1⟩

end Acceptance.FeatureRunner
