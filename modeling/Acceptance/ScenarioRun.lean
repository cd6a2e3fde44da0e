import Acceptance.Options
import Acceptance.Record
import Acceptance.Suite

/-!
# Runs of a scenario

An instance is attempted until an attempt passes, fails for good, or has no retries left. An attempt
creates a world, calls the hooks before the scenario, runs the steps up to the first that fails, and
whatever happened calls all hooks after it and drops the world.
-/

namespace Acceptance

/-- What runs a single instance. -/
structure ScenarioRunner (σ ω : Type) where
  suite : Suite σ ω
  options : Options
  strategy : Strategy σ

/-- How a step failed: its error, and whether the hooks before it let it through. -/
structure StepFailure where
  error : StepError
  dispatched : Bool
deriving DecidableEq

/-- Why an attempt failed. -/
inductive AttemptFailure
  | world (message : String)
  | beforeHook (error : HookError)
  | step (failure : StepFailure)
deriving DecidableEq

/-- An attempt whose outcome is known: the records of the steps that ran, why it failed if it did,
and its world if it has one. -/
structure Attempt (ω : Type) where
  steps : List StepRecord
  failure : Option AttemptFailure
  world : Option ω

namespace ScenarioRunner

variable {σ ω : Type}

/-- What the hooks of an instance are told. -/
def hookContext (instance_ : Instance) (step : Option Step) (status : Option Status)
    (attempt : Nat) : HookContext where
  feature := instance_.feature
  scenario := some instance_.name
  step := step.map Step.text
  tags := instance_.tags
  status := status
  attempt := attempt

/-- What a handler is told about a step. -/
def stepContext (step : Step) (args : List Argument) (attempt : Nat) : StepContext :=
  { keyword := Text.trimmed step.keyword, text := step.text, args, attempt }

/-- The error of a step whose handler ended or was given up at a limit. -/
def stepError? (text : String) (limit : Option Duration) :
    Except Panic (Option Reply) → Option StepError
  | .ok (some (.ok _)) => none
  | .ok (some (.error message)) => some (.failed text message)
  | .ok none => some (.timeout text (limit.getD ⟨0⟩))
  | .error panic => some (.failed text panic.message)

/-- Runs a handler on a world, for no longer than a limit. -/
def execute (text : String) (limit : Option Duration) (handler : Task (σ × ω) Event Reply)
    (world : ω) : Task σ Event (Option StepError × ω) := do
  let (result, world) ←
    (handler.withinLimit (limit.map Duration.nanoseconds)).onPrivate world
  pure (stepError? text limit result, world)

/-- Offers a step without a definition to the fallback. -/
def runFallback (runner : ScenarioRunner σ ω) (instance_ : Instance) (step : Step) (attempt : Nat)
    (world : ω) : Task σ Event (Option StepError × ω) :=
  match runner.suite.fallback with
  | none => pure (some (.notFound step.text), world)
  | some fallback => do
    Task.report (.offer instance_.key attempt step.text)
    let context := stepContext step (Argument.attachments step) attempt
    let (offered, world) ← (fallback context).beside world
    match offered with
    | none => pure (some (.notFound step.text), world)
    | some handler => execute step.text runner.options.stepTimeout handler world

/-- Runs what handles a step: its definition, or the fallback where there is none. The time limit of a
handler is that of what is awaited. -/
def dispatch (runner : ScenarioRunner σ ω) (instance_ : Instance) (step : Step) (attempt : Nat)
    (world : ω) : Task σ Event (Option StepError × ω) :=
  match runner.suite.definitions.resolveStep? step with
  | none => runner.runFallback instance_ step attempt world
  | some found => do
    Task.report (.handler found.definition.index instance_.key attempt step.text)
    let limit := found.definition.options.timeout.or runner.options.stepTimeout
    let (handler, world) ←
      (found.definition.handler (stepContext step found.args attempt)).beside world
    execute step.text limit handler world

/-- Runs a step between its hooks. A hook before the step that fails keeps it from running; the hooks
after it are called in any case, and make a step fail that has not failed yet. -/
def runStep (runner : ScenarioRunner σ ω) (instance_ : Instance) (attempt : Nat) (step : Step)
    (world : ω) : Task σ Event (Option StepFailure × ω) := do
  let before := hookContext instance_ (some step) none attempt
  let (refused, world) ← Suite.runHooks Suite.callWithWorld before
    (runner.suite.hooksFor .beforeStep before) world
  let (failure, world) ← match refused with
    | some error => pure (some ⟨.hook step.text error, false⟩, world)
    | none => do
      let (error, world) ← runner.dispatch instance_ step attempt world
      pure (error.map (⟨·, true⟩), world)
  let after := { before with status := some (.ofError failure) }
  let (errors, world) ← Suite.runAllHooks Suite.callWithWorld after
    (runner.suite.hooksFor .afterStep after) world
  pure (failure.or (errors.head?.map fun error => ⟨.hook step.text error, true⟩), world)

/-- Runs steps in order up to the first that fails. -/
def runSteps (runner : ScenarioRunner σ ω) (instance_ : Instance) (attempt : Nat) :
    List (Step × Bool) → ω → Task σ Event (List StepRecord × Option StepFailure × ω)
  | [], world => pure ([], none, world)
  | (step, background) :: rest, world => do
    let (failure, world) ← runner.runStep instance_ attempt step world
    let record := StepRecord.ran step background (failure.map StepFailure.error)
    match failure with
    | some failure => pure ([record], some failure, world)
    | none => do
      let (records, failure, world) ← runner.runSteps instance_ attempt rest world
      pure (record :: records, failure, world)

/-- Runs an attempt up to the point where its outcome is known. -/
def attempt (runner : ScenarioRunner σ ω) (instance_ : Instance) (number : Nat) :
    Task σ Event (Attempt ω) := do
  Task.report (.world instance_.key number)
  match ← runner.suite.newWorld.guarded with
  | .error panic => pure ⟨[], some (.world panic.message), none⟩
  | .ok (.error message) => pure ⟨[], some (.world message), none⟩
  | .ok (.ok world) =>
    let context := hookContext instance_ none none number
    let (error, world) ← Suite.runHooks Suite.callWithWorld context
      (runner.suite.hooksFor .before context) world
    match error with
    | some error => pure ⟨[], some (.beforeHook error), some world⟩
    | none => do
      let (records, failure, world) ← runner.runSteps instance_ number instance_.allSteps world
      pure ⟨records, failure.map AttemptFailure.step, some world⟩

/-- Calls the hooks after an attempt, drops its world and makes its record. -/
def finish (runner : ScenarioRunner σ ω) (instance_ : Instance) (number startedAt : Nat)
    (ended : Attempt ω) (status : Status) (error : Option ScenarioError) :
    Task σ Event Record := do
  let context := hookContext instance_ none (some status) number
  let hooks := runner.suite.hooksFor .after context
  let errors ← match ended.world with
    | some world => do
      let (errors, world) ← Suite.runAllHooks Suite.callWithWorld context hooks world
      runner.suite.dropWorld world
      pure errors
    | none => do
      let (errors, _) ← Suite.runAllHooks Suite.callAlone context hooks ⟨⟩
      pure errors
  let finishedAt ← Task.now
  pure (.ofAttempt instance_ number ended.steps status error errors startedAt finishedAt)

/-- The number of retries that a failed step may have: that of its definition, where the step got to
it and it has one, else that of the plan. -/
def budget (runner : ScenarioRunner σ ω) (plan : RetryPlan) (failure : StepFailure) : Nat :=
  (if failure.dispatched then runner.suite.definitions.budget? failure.error.step else none).getD
    plan.retries

/-- The largest number of retries that any failure may have. -/
def maxBudget (runner : ScenarioRunner σ ω) (plan : RetryPlan) : Nat :=
  max plan.retries runner.suite.definitions.maxBudget

/-- What follows a failed or passed attempt: its final outcome, or another attempt within a bound. -/
inductive Verdict (number bound : Nat)
  | final (status : Status) (error : Option ScenarioError)
  | again (error : StepError) (within : number ≤ bound)

theorem foldl_max_ge {α : Type} (f : α → Nat) (items : List α) (start : Nat) :
    start ≤ items.foldl (fun largest item => max largest (f item)) start := by
  induction items generalizing start with
  | nil => exact Nat.le_refl _
  | cons item rest ih => exact Nat.le_trans (Nat.le_max_left _ _) (ih _)

theorem foldl_max_ge_mem {α : Type} (f : α → Nat) {items : List α} {item : α} (start : Nat)
    (hmem : item ∈ items) :
    f item ≤ items.foldl (fun largest item => max largest (f item)) start := by
  induction items generalizing start with
  | nil => cases hmem
  | cons head rest ih =>
    cases hmem with
    | head => exact Nat.le_trans (Nat.le_max_right _ _) (foldl_max_ge f rest _)
    | tail _ hrest => exact ih _ hrest

/-- A definition allows at most as many retries as the definition that allows most. -/
theorem budget?_le_maxBudget {η : Type} {definitions : Definitions η} {text : String} {allowed : Nat}
    (hbudget : definitions.budget? text = some allowed) : allowed ≤ definitions.maxBudget := by
  unfold Definitions.budget? at hbudget
  obtain ⟨found, hfound, hallowed⟩ := Option.bind_eq_some_iff.1 hbudget
  unfold Definitions.resolve? at hfound
  obtain ⟨definition, hmem, hmatched⟩ := List.exists_of_findSome?_eq_some hfound
  unfold Definitions.matched? at hmatched
  obtain ⟨_, _, rfl⟩ := Option.map_eq_some_iff.1 hmatched
  obtain ⟨place, _, hplace⟩ := List.mem_filterMap.1 hmem
  have hentry : definition ∈ definitions.entries := List.mem_of_getElem? hplace
  have hle : definition.options.maxRetries.getD 0 ≤ definitions.maxBudget :=
    foldl_max_ge_mem (fun definition : Definition η => definition.options.maxRetries.getD 0) 0
      hentry
  rw [show definition.options.maxRetries = some allowed from hallowed] at hle
  exact hle

/-- No failure may have more retries than the largest number of them. -/
theorem budget_le_maxBudget (runner : ScenarioRunner σ ω) (plan : RetryPlan)
    (failure : StepFailure) : runner.budget plan failure ≤ runner.maxBudget plan := by
  unfold budget maxBudget
  split
  · cases hbudget : runner.suite.definitions.budget? failure.error.step with
    | none => exact Nat.le_max_left _ _
    | some allowed => exact Nat.le_trans (budget?_le_maxBudget hbudget) (Nat.le_max_right _ _)
  · exact Nat.le_max_left _ _

/-- Decides what follows an attempt. Only a step that failed with its definition found may be
retried, as long as retries are left and the strategy agrees. Where none are left although some were
allowed, the error says so. -/
def decide (runner : ScenarioRunner σ ω) (instance_ : Instance) (plan : RetryPlan) (number : Nat) :
    Option AttemptFailure → Task σ Event (Verdict number (runner.maxBudget plan))
  | none => pure (.final .passed none)
  | some (.world message) => pure (.final .failed (some (.world message)))
  | some (.beforeHook error) => pure (.final .failed (some (.beforeHook error)))
  | some (.step failure) =>
    let budget := runner.budget plan failure
    if !failure.error.isRetryable then pure (.final .failed (some (.step failure.error)))
    else if hleft : 0 < budget - (number - 1) then do
      let context : RetryContext :=
        { key := instance_.key, step := failure.error.step, attempt := number,
          retries := ⟨number - 1, budget - (number - 1)⟩ }
      Task.report (.consult instance_.key number)
      if ← runner.strategy failure.error context then
        pure (.again failure.error
          (Nat.le_trans (by omega : number ≤ budget) (runner.budget_le_maxBudget plan failure)))
      else pure (.final .failed (some (.step failure.error)))
    else if 0 < budget then
      pure (.final .failed (some (.retryExhausted number (.step failure.error))))
    else pure (.final .failed (some (.step failure.error)))

/-- Attempts an instance from an attempt number on and gives the records of all attempts in order. -/
def attemptsFrom (runner : ScenarioRunner σ ω) (instance_ : Instance) (plan : RetryPlan)
    (number : Nat) : Task σ Event (List Record) := do
  let startedAt ← Task.now
  let ended ← runner.attempt instance_ number
  match ← runner.decide instance_ plan number ended.failure with
  | .final status error =>
    let record ← runner.finish instance_ number startedAt ended status error
    pure [record]
  | .again error _within => do
    let record ← runner.finish instance_ number startedAt ended .failed (some (.step error))
    Task.wait (plan.after.map Duration.nanoseconds)
    let records ← runner.attemptsFrom instance_ plan (number + 1)
    pure (record :: records)
termination_by runner.maxBudget plan + 1 - number

/-- The retries that an instance is planned to have. -/
def plan (runner : ScenarioRunner σ ω) (instance_ : Instance) : RetryPlan :=
  .resolve instance_.tags runner.options.retries runner.options.retryAfter

/-- Runs an instance and gives the records of all attempts in order. -/
def run (runner : ScenarioRunner σ ω) (instance_ : Instance) : Task σ Event (List Record) :=
  runner.attemptsFrom instance_ (runner.plan instance_) 1

end ScenarioRunner

end Acceptance
