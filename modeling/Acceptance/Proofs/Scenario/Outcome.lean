import Acceptance.Proofs.Scenario.Lifecycle

/-!
# Outcomes of attempts

What is lived through in an attempt, taken for its outcome: which failure there was, and the number of
retries that the definition of the failed step allows. The answers of the hooks after a step count only
where the step has not failed before them.
-/

namespace Acceptance.ScenarioRunner

open Acceptance.Task (Act)

variable {σ ω : Type} {runner : ScenarioRunner σ ω} {instance_ : Instance} {number : Nat} {step : Step}
  {world world' : ω} {acts : List (Act σ Event)}

/-- The retries that a definition allows are found by the text of the failed step. -/
theorem budget?_text (step : Step) :
    runner.suite.definitions.budget? step.text = runner.allowed step := by
  unfold Definitions.budget? allowed Definitions.resolveStep?
  cases runner.suite.definitions.resolve? step.text <;> rfl

/-- The error of a failed step, and the number of retries that its definition allows if it was called
for the step and says so. -/
def withAllowed (runner : ScenarioRunner σ ω) (failure : StepFailure) : StepError × Option Nat :=
  (failure.error,
    if failure.dispatched then runner.suite.definitions.budget? failure.error.step else none)

theorem withAllowed_dispatched (step : Step) {error : StepError} (h : error.step = step.text) :
    runner.withAllowed ⟨error, true⟩ = (error, runner.allowed step) := by
  rw [withAllowed, if_pos rfl, h, budget?_text]

theorem StepLived.stepRuns {failure : Option StepFailure}
    (h : StepLived runner instance_ number step world acts failure world') :
    StepRuns runner instance_ number step world acts (failure.map runner.withAllowed) world' := by
  cases h with
  | refused hbefore hafter => exact .refused hbefore hafter
  | failed hbefore hcall hafter =>
      rw [Option.map_some, withAllowed_dispatched step hcall.step_eq]
      exact .called hbefore hcall.ends hafter
  | spoiled hbefore hcall hafter =>
      rw [Option.map_some, withAllowed_dispatched step rfl]
      exact .called hbefore hcall.ends hafter
  | passed hbefore hcall hafter => exact .called hbefore hcall.ends hafter

theorem StepsLived.stepsRun {steps : List (Step × Bool)} {records : List StepRecord}
    {failure : Option StepFailure}
    (h : StepsLived runner instance_ number steps world acts records failure world') :
    StepsRun runner instance_ number steps world acts (failure.map runner.withAllowed) world' := by
  induction h with
  | nil world => exact .nil world
  | fails hstep => exact .fails hstep.stepRuns
  | passes hstep _ ih => exact .passes hstep.stepRuns ih

theorem Opened.attempted {ended : Attempt ω} (h : Opened runner instance_ number acts ended) :
    ∃ outcome, Attempted runner instance_ number acts outcome ∧
      runner.Fits outcome ended.failure := by
  cases h with
  | noWorld hworld => exact ⟨_, .noWorld hworld, rfl⟩
  | worldCrashed hworld => exact ⟨_, .worldCrashed hworld, rfl⟩
  | refused hworld hbefore => exact ⟨_, .refused hworld hbefore, rfl⟩
  | @stepped _ _ _ _ failure _ _ _ hworld hbefore hsteps =>
      cases failure with
      | none => exact ⟨_, .passed hworld hbefore hsteps.stepsRun, rfl⟩
      | some failed =>
          exact ⟨_, .failed hworld hbefore hsteps.stepsRun, failed, rfl, rfl, fun _ => rfl⟩

end Acceptance.ScenarioRunner
