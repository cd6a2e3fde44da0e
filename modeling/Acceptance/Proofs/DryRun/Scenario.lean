import Acceptance.DryRun
import Acceptance.Proofs.Scenario.Shape

/-!
# Plans and records

A plan is made without running anything, and a record by a run. What is known of an instance before it is
run, its key and its steps, is the same in both. Whether a definition matches a step is looked up alike, so
a step that is handled has no definition exactly if it is planned without one.
-/

namespace Acceptance

open Acceptance.Task (Act)

variable {σ ω ρ : Type}

namespace Suite

/-- The failure of a hook tells the phase of the hook. -/
theorem HooksRun.exists_hook {call : HookCall σ ω ρ} {context : HookContext}
    {hooks : List (Hook (HookAction σ ω))} {around around' : ρ} {acts : List (Act σ Event)}
    {error : HookError} (h : HooksRun call context hooks around acts (some error) around') :
    ∃ hook ∈ hooks, error.phase = hook.phase := by
  generalize hfailure : some error = failure at h
  induction h with
  | nil _ => cases hfailure
  | @fails hook rest _ _ message _ _ =>
      cases hfailure
      exact ⟨hook, List.mem_cons_self, rfl⟩
  | passes _ _ ih =>
      obtain ⟨hook, hhook, hphase⟩ := ih hfailure
      exact ⟨hook, List.mem_cons_of_mem _ hhook, hphase⟩

end Suite

namespace DryRun

/-- What is repeated from a step in its plan. -/
def StepPlan.label (step : StepPlan) : String × String × Bool :=
  (step.keyword, step.text, step.background)

/-- A plan tells whether a step has a definition: unless the step is never run or a hook before it fails,
it fails for the lack of one exactly if it is planned without one. -/
def StepForetold (planned : StepPlan) (record : StepRecord) : Prop :=
  record.status ≠ .skipped →
    (∀ message, record.error ≠ some (.hook record.text ⟨.beforeStep, message⟩)) →
    (record.error.map StepError.kind = some .notFound ↔ planned.isUndefined = true)

/-- What a plan of a scenario tells about its record. That steps without a definition fail is so only where
no fallback may take them over. -/
structure Foretells (runner : ScenarioRunner σ ω) (planned : ScenarioPlan) (record : Record) : Prop where
  key : record.key = planned.key
  steps : record.steps.map StepRecord.label = planned.steps.map StepPlan.label
  unexpanded : ∀ message, planned.error = some message ↔ record.error = some (.examples message)
  undefined : runner.suite.fallback = none → List.Forall₂ StepForetold planned.steps record.steps
  skipped : runner.options.dryRun = true → planned.error = none → record.status = .skipped

section Plans

variable {η : Type} (definitions : Definitions η)

@[simp]
theorem label_planStep (step : Step × Bool) : (planStep definitions step).label = Instance.label step := rfl

theorem isUndefined_planStep (step : Step × Bool) :
    (planStep definitions step).isUndefined = true ↔ definitions.resolveStep? step.1 = none := by
  simp [planStep, StepPlan.isUndefined, Definitions.resolveStep?]

theorem labels_planScenario (error : Option String) (instance_ : Instance) :
    (planScenario definitions error instance_).steps.map StepPlan.label =
      instance_.allSteps.map Instance.label := by
  simp [planScenario, Function.comp_def]

theorem stepForetold_skipped (planned : StepPlan) (step : Step × Bool) :
    StepForetold planned (.skipped step) := fun h => absurd rfl h

theorem forall₂_stepForetold_skipped (steps : List (Step × Bool)) :
    List.Forall₂ StepForetold (steps.map (planStep definitions)) (steps.map StepRecord.skipped) := by
  rw [List.forall₂_map_left_iff, List.forall₂_map_right_iff, List.forall₂_same]
  intro step _
  exact stepForetold_skipped _ step

end Plans

end DryRun

namespace ScenarioRunner

open DryRun

variable {runner : ScenarioRunner σ ω} {instance_ : Instance} {number : Nat} {acts : List (Act σ Event)}
  {world world' : ω}

theorem Dispatched.notFound_iff (hfallback : runner.suite.fallback = none) {step : Step}
    {error : Option StepError}
    (h : Dispatched runner instance_ number step world acts error world') :
    error.map StepError.kind = some .notFound ↔
      runner.suite.definitions.resolveStep? step = none := by
  cases h with
  | defined hfound _ hruns =>
      have hfailed : error.map StepError.kind ≠ some .notFound := by
        cases hruns <;> nofun
      simp [hfound, hfailed]
  | undefined hnone _ => simp [hnone, StepError.kind]
  | declined _ hsome _ => cases hfallback.symm.trans hsome
  | takenOver _ hsome _ _ => cases hfallback.symm.trans hsome

/-- A step that gets past the hooks before it fails for the lack of a definition exactly if it is planned
without one. Hooks after it do not hide this failure. -/
theorem StepLived.notFound_iff (hfallback : runner.suite.fallback = none) {step : Step × Bool}
    {failure : Option StepFailure}
    (h : StepLived runner instance_ number step.1 world acts failure world')
    (hpast : ∀ failed ∈ failure, failed.dispatched = true) :
    (failure.map StepFailure.error).map StepError.kind = some .notFound ↔
      (planStep runner.suite.definitions step).isUndefined = true := by
  rw [isUndefined_planStep]
  cases h with
  | refused _ _ => exact absurd (hpast _ rfl) (by simp)
  | failed _ hcall _ => exact hcall.notFound_iff hfallback
  | spoiled _ hcall _ =>
      rw [← hcall.notFound_iff hfallback]
      simp [StepError.kind]
  | passed _ hcall _ => exact hcall.notFound_iff hfallback

theorem StepLived.foretold (hfallback : runner.suite.fallback = none) {step : Step × Bool}
    {failure : Option StepFailure}
    (h : StepLived runner instance_ number step.1 world acts failure world') :
    StepForetold (planStep runner.suite.definitions step)
      (.ran step.1 step.2 (failure.map StepFailure.error)) := by
  intro _ hbefore
  apply h.notFound_iff hfallback
  cases h with
  | @refused _ _ error _ _ _ hrefused _ =>
      -- The error is that of a hook before the step, which is left out.
      obtain ⟨hook, hhook, hphase⟩ := hrefused.exists_hook
      obtain ⟨phase, message⟩ := error
      obtain rfl : phase = .beforeStep := hphase.trans (Suite.phase_of_mem_hooksFor hhook)
      exact absurd rfl (hbefore message)
  | failed _ _ _ => simp
  | spoiled _ _ _ => simp
  | passed _ _ _ => simp

/-- The steps that are run are told about, from the first one on. -/
theorem StepsLived.foretold (hfallback : runner.suite.fallback = none) {steps : List (Step × Bool)}
    {records : List StepRecord} {failure : Option StepFailure}
    (h : StepsLived runner instance_ number steps world acts records failure world') :
    ∃ run rest, steps = run ++ rest ∧
      List.Forall₂ StepForetold (run.map (planStep runner.suite.definitions)) records := by
  induction h with
  | nil _ => exact ⟨[], [], rfl, .nil⟩
  | @fails step rest _ _ _ failure hstep =>
      -- The steps behind the one that fails have no records yet.
      exact ⟨[step], rest, rfl, .cons (hstep.foretold hfallback) .nil⟩
  | @passes step _ _ _ _ _ _ _ _ hstep _ ih =>
      obtain ⟨run, rest, rfl, hrun⟩ := ih
      exact ⟨step :: run, rest, rfl, .cons (hstep.foretold hfallback) hrun⟩

theorem Opened.foretold (hfallback : runner.suite.fallback = none) {ended : Attempt ω}
    (h : Opened runner instance_ number acts ended) :
    ∃ run rest, instance_.allSteps = run ++ rest ∧
      List.Forall₂ StepForetold (run.map (planStep runner.suite.definitions)) ended.steps := by
  cases h with
  | noWorld _ => exact ⟨[], _, rfl, .nil⟩
  | worldCrashed _ => exact ⟨[], _, rfl, .nil⟩
  | refused _ _ => exact ⟨[], _, rfl, .nil⟩
  | stepped _ _ hsteps => exact hsteps.foretold hfallback

theorem Reported.ne_examples {failure : Option AttemptFailure} {error : Option ScenarioError}
    (h : Reported number failure error) (message : String) : error ≠ some (.examples message) := by
  cases h <;> nofun

/-- What is planned for an instance is told by the record of every attempt at it. -/
theorem Lived.foretells {record : Record} (h : Lived runner instance_ number acts record)
    (hdry : runner.options.dryRun = false) :
    Foretells runner (planScenario runner.suite.definitions none instance_) record where
  key := by
    obtain ⟨_, _, _, _, _, _, _⟩ := h
    rfl
  steps := by rw [h.isShaped.aligned, labels_planScenario]
  unexpanded := by
    obtain ⟨_, _, _, _, _, hreported, _⟩ := h
    intro message
    exact iff_of_false nofun (hreported.ne_examples message)
  undefined := by
    intro hfallback
    obtain ⟨_, _, hopened, _, _, _, _⟩ := h
    obtain ⟨run, rest, hall, hrun⟩ := hopened.foretold hfallback
    have hlength := hrun.length_eq
    rw [List.length_map] at hlength
    simp only [planScenario, Record.ofAttempt]
    -- The steps that were not run are recorded as skipped, and of these nothing is told.
    rw [← hlength, hall, List.drop_left, List.map_append]
    exact List.rel_append hrun (forall₂_stepForetold_skipped _ rest)
  skipped := fun h => by cases hdry.symm.trans h

/-- The record of an instance that is not attempted tells what is planned for it. -/
theorem foretells_ofAttempt {planned : Option String} {status : Status} {error : Option ScenarioError}
    {startedAt finishedAt : Nat} {errors : List HookError}
    (herror : ∀ message, planned = some message ↔ error = some (.examples message))
    (hskipped : runner.options.dryRun = true → planned = none → status = .skipped) :
    Foretells runner (planScenario runner.suite.definitions planned instance_)
      (.ofAttempt instance_ number [] status error errors startedAt finishedAt) where
  key := rfl
  steps := by
    rw [labels_planScenario]
    simp [Record.ofAttempt, Function.comp_def]
  unexpanded := herror
  undefined := fun _ => forall₂_stepForetold_skipped _ _
  skipped := hskipped

/-- All records of a run tell what is planned for its instance. -/
theorem foretells_of_ends {records : List Record}
    (h : (runner.run instance_).Ends acts (.finished records)) (hdry : runner.options.dryRun = false) :
    ∀ record ∈ records, Foretells runner (planScenario runner.suite.definitions none instance_) record :=
  forall_records_of_lived h fun _ _ _ hlived => hlived.foretells hdry

end ScenarioRunner

end Acceptance
