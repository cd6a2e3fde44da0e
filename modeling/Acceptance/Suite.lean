import Acceptance.Definition
import Acceptance.Hook
import Acceptance.Instance
import Acceptance.Retry
import Acceptance.Task

/-!
# Suites

What features are run against: step definitions, hooks, a fallback for steps without a definition,
and the creation of a world for each attempt. Handlers and hooks are tasks over the state that all
scenarios share and the world of their own scenario.

Whatever is called here is called first and awaited then. A call is code that runs before there is
anything to await. Only what is awaited is guarded: it may crash, which is a failure like any other one,
whereas the crash of a call goes through to whoever runs the scenario or the feature.
-/

namespace Acceptance

/-- What a run reports while it goes on. Handlers and hooks may add notes of their own. -/
inductive Event
  | note (line : String)
  | world (key : ScenarioKey) (attempt : Nat)
  | hook (phase : Phase) (index : Nat) (feature : String) (scenario : Option String) (attempt : Nat)
  | handler (index : Nat) (key : ScenarioKey) (attempt : Nat) (step : String)
  | offer (key : ScenarioKey) (attempt : Nat) (step : String)
  | consult (key : ScenarioKey) (attempt : Nat)
deriving DecidableEq, Inhabited

/-- What a handler or a hook answers: nothing, or the text of its failure. -/
abbrev Reply := Except String PUnit

/-- The call of a handler or a hook over a state, which gives what is awaited. -/
abbrev Call (τ : Type) := Task τ Event (Task τ Event Reply)

/-- The handler of a step definition. -/
abbrev Handler (σ ω : Type) := StepContext → Call (σ × ω)

/-- What a hook does where there is a world, and where there is none. -/
structure HookAction (σ ω : Type) where
  withWorld : HookContext → Call (σ × ω)
  alone : HookContext → Call σ

/-- Takes over a step without a definition, or declines it. -/
abbrev Fallback (σ ω : Type) := StepContext → Task (σ × ω) Event (Option (Task (σ × ω) Event Reply))

/-- What features are run against. A world is dropped when the hooks after its attempt have been
called. -/
structure Suite (σ ω : Type) where
  definitions : Definitions (Handler σ ω) := {}
  hooks : Hooks (HookAction σ ω) := {}
  fallback : Option (Fallback σ ω) := none
  newWorld : Task σ Event (Task σ Event (Except String ω))
  dropWorld : ω → Task σ Event PUnit := fun _ => pure ⟨⟩

/-- What a strategy is told about a failed attempt. -/
structure RetryContext where
  key : ScenarioKey
  step : String
  attempt : Nat
  retries : Retries
deriving DecidableEq

/-- Decides whether a failed attempt is followed by another one. -/
abbrev Strategy (σ : Type) := StepError → RetryContext → Task σ Event Bool

namespace Strategy

/-- Retries as long as the budget lasts. -/
def unconditional {σ : Type} : Strategy σ := fun _ _ => pure true

end Strategy

namespace Suite

variable {σ ω ρ : Type}

/-- The message of a failure, if what ran failed or crashed. -/
def failure? : Except Panic Reply → Option String
  | .ok (.ok _) => none
  | .ok (.error message) => some message
  | .error panic => some panic.message

/-- How a hook is called with surroundings of some kind. What is awaited then may fail and may change
them. -/
abbrev HookCall (σ ω ρ : Type) :=
  HookAction σ ω → HookContext → ρ → Task σ Event (Task σ Event (Option String × ρ))

/-- Awaits what a call gave on a world. -/
def awaitWithWorld (called : Task (σ × ω) Event Reply) (world : ω) : Task σ Event (Option String × ω) :=
  (called.onPrivate world).bind fun result => .done (failure? result.1, result.2)

/-- Awaits what a call without a world gave. -/
def awaitAlone (called : Task σ Event Reply) : Task σ Event (Option String × PUnit) :=
  called.caught.bind fun result => .done (failure? result, ⟨⟩)

/-- Calls a hook with a world. -/
def callWithWorld : HookCall σ ω ω := fun action context world =>
  ((action.withWorld context).beside world).bind fun called => .done (awaitWithWorld called.1 called.2)

/-- Calls a hook without a world. -/
def callAlone : HookCall σ ω PUnit := fun action context _ =>
  (action.alone context).bind fun called => .done (awaitAlone called)

/-- The event of a hook that is called. -/
def hookEvent (hook : Hook (HookAction σ ω)) (context : HookContext) : Event :=
  .hook hook.phase hook.index context.feature context.scenario context.attempt

/-- Calls hooks in order up to the first that fails. -/
def runHooks (call : HookCall σ ω ρ) (context : HookContext) :
    List (Hook (HookAction σ ω)) → ρ → Task σ Event (Option HookError × ρ)
  | [], around => pure (none, around)
  | hook :: rest, around => do
    Task.report (hookEvent hook context)
    let (failure, around) ← (call hook.action context around).join
    match failure with
    | some message => pure (some ⟨hook.phase, message⟩, around)
    | none => runHooks call context rest around

/-- Calls all hooks in order and collects their failures. -/
def runAllHooks (call : HookCall σ ω ρ) (context : HookContext) :
    List (Hook (HookAction σ ω)) → ρ → Task σ Event (List HookError × ρ)
  | [], around => pure ([], around)
  | hook :: rest, around => do
    Task.report (hookEvent hook context)
    let (failure, around) ← (call hook.action context around).join
    let (errors, around) ← runAllHooks call context rest around
    pure ((failure.map (HookError.mk hook.phase)).toList ++ errors, around)

/-- The hooks of a phase that apply in a context. -/
def hooksFor (suite : Suite σ ω) (phase : Phase) (context : HookContext) :
    List (Hook (HookAction σ ω)) :=
  suite.hooks.list phase context.tags

end Suite

end Acceptance
