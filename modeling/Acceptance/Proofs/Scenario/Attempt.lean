import Acceptance.Proofs.Task.Course
import Acceptance.ScenarioRun

/-!
# Attempts

How an attempt at a scenario may come out, told from what the creation of its world, its hooks and
the handlers of its steps ended with. Nothing is assumed about these: each of them may end in any way
that its task allows.
-/

namespace Acceptance

variable {σ ω ρ : Type}

/-! ## Hooks -/

namespace Suite

section HooksFor

variable {suite : Suite σ ω} {phase : Phase} {context : HookContext} {hook : Hook (HookAction σ ω)}

/-- The hooks that apply in a context are registered ones. -/
theorem mem_of_mem_hooksFor (h : hook ∈ suite.hooksFor phase context) : hook ∈ suite.hooks.entries :=
  (List.mem_filter.mp (List.mem_mergeSort.mp h)).1

theorem phase_of_mem_hooksFor (h : hook ∈ suite.hooksFor phase context) : hook.phase = phase := by
  have hmem := List.mem_mergeSort.mp h
  simp only [List.mem_filter, Bool.and_eq_true, decide_eq_true_iff] at hmem
  exact hmem.2.1

end HooksFor

variable (call : HookCall σ ω ρ) (context : HookContext)

/-- Hooks are called in order up to the first that fails: what is done, which failure there was, and
what is left of the surroundings. -/
inductive HooksRun : List (Hook (HookAction σ ω)) → ρ → List (Task.Act σ Event) → Option HookError →
    ρ → Prop
  | nil (around : ρ) : HooksRun [] around [] none around
  | fails {hook rest around around' message acts}
      (hcall : (call hook.action context around).join.Ends acts (.finished (some message, around'))) :
      HooksRun (hook :: rest) around (.emit (hookEvent hook context) :: acts)
        (some ⟨hook.phase, message⟩) around'
  | passes {hook rest around around' around'' failure acts later}
      (hcall : (call hook.action context around).join.Ends acts (.finished (none, around')))
      (hrest : HooksRun rest around' later failure around'') :
      HooksRun (hook :: rest) around (.emit (hookEvent hook context) :: (acts ++ later)) failure
        around''

/-- All of some hooks are called in order: what is done, which failures there were, and what is left
of the surroundings. -/
inductive AllHooksRun : List (Hook (HookAction σ ω)) → ρ → List (Task.Act σ Event) →
    List HookError → ρ → Prop
  | nil (around : ρ) : AllHooksRun [] around [] [] around
  | cons {hook rest around around' around'' failure errors acts later}
      (hcall : (call hook.action context around).join.Ends acts (.finished (failure, around')))
      (hrest : AllHooksRun rest around' later errors around'') :
      AllHooksRun (hook :: rest) around (.emit (hookEvent hook context) :: (acts ++ later))
        ((failure.map (HookError.mk hook.phase)).toList ++ errors) around''

variable {call context} {hooks : List (Hook (HookAction σ ω))} {around around' : ρ}
  {acts : List (Task.Act σ Event)}

theorem ends_report {event : Event} {value : PUnit} :
    (Task.report event : Task σ Event PUnit).Ends acts (.finished value) ↔ acts = [.emit event] := by
  simp [Task.report]

theorem hooksRun_of_ends {failure : Option HookError}
    (h : (runHooks call context hooks around).Ends acts (.finished (failure, around'))) :
    HooksRun call context hooks around acts failure around' := by
  induction hooks generalizing around acts with
  | nil =>
      obtain ⟨rfl, heq⟩ := Task.ends_done.mp h
      cases heq
      exact .nil _
  | cons hook rest ih =>
      simp only [runHooks, bind, pure, Task.ends_bind_finished, ends_report] at h
      obtain ⟨_, _, _, rfl, rfl, ⟨found, around''⟩, first, later, rfl, hcall, hlater⟩ := h
      rw [List.singleton_append]
      cases found with
      | some message =>
          obtain ⟨rfl, heq⟩ := Task.ends_done.mp hlater
          cases heq
          rw [List.append_nil]
          exact .fails hcall
      | none => exact .passes hcall (ih hlater)

theorem allHooksRun_of_ends {errors : List HookError}
    (h : (runAllHooks call context hooks around).Ends acts (.finished (errors, around'))) :
    AllHooksRun call context hooks around acts errors around' := by
  induction hooks generalizing around acts errors with
  | nil =>
      obtain ⟨rfl, heq⟩ := Task.ends_done.mp h
      cases heq
      exact .nil _
  | cons hook rest ih =>
      simp only [runAllHooks, bind, pure, Task.ends_bind_finished, ends_report] at h
      obtain ⟨_, _, _, rfl, rfl, ⟨failure, around''⟩, first, _, rfl, hcall, ⟨more, _⟩, later, _, rfl,
        hrest, hdone⟩ := h
      obtain ⟨rfl, heq⟩ := Task.ends_done.mp hdone
      cases heq
      rw [List.append_nil, List.singleton_append]
      exact .cons hcall (ih hrest)

/-! ### Hooks that avoid a mishap -/

section Avoids

variable {mishap : Task.Mishap}

/-- What is awaited never crashes, and hangs only where the hook itself does. -/
theorem avoids_awaitWithWorld {called : Task (σ × ω) Event Reply} (h : called.Avoids .hang) (world : ω) :
    (awaitWithWorld called world).Avoids mishap :=
  (h.onPrivate world).bind fun _ => Task.avoids_done _

theorem avoids_crash_awaitAlone (called : Task σ Event Reply) : (awaitAlone called).Avoids .crash :=
  (Task.avoids_crash_caught _).bind fun _ => Task.avoids_done _

theorem avoids_awaitAlone {called : Task σ Event Reply} (h : called.Avoids mishap) :
    (awaitAlone called).Avoids mishap :=
  h.caught.bind fun _ => Task.avoids_done _

/-- The call of a hook that is answered, and what is awaited then, meet with no mishap. -/
theorem avoids_callWithWorld {action : HookAction σ ω} (h : (action.withWorld context).IsAnswered)
    (world : ω) : (callWithWorld action context world).join.Avoids mishap := by
  refine .join (((h.calls mishap).beside world).bind fun _ => Task.avoids_done _) ?_
  intro acts awaited hends
  obtain ⟨⟨called, world'⟩, before, after, -, hcalled, hdone⟩ := Task.ends_bind_finished.mp hends
  cases (Task.ends_done.mp hdone).2
  obtain ⟨inner, ended, own, hinner, heq⟩ := hcalled.of_beside
  cases ended <;> cases heq
  exact avoids_awaitWithWorld (h.awaits inner called hinner) world'

theorem avoids_callAlone {action : HookAction σ ω} (h : (action.alone context).IsAnswered)
    (around : PUnit) : (callAlone action context around).join.Avoids mishap := by
  refine .join ((h.calls mishap).bind fun _ => Task.avoids_done _) ?_
  intro acts awaited hends
  obtain ⟨called, before, after, -, hcalled, hdone⟩ := Task.ends_bind_finished.mp hends
  cases (Task.ends_done.mp hdone).2
  cases mishap with
  | crash => exact avoids_crash_awaitAlone called
  | hang => exact avoids_awaitAlone (h.awaits before called hcalled)

/-- Hooks meet with no mishap but those of their calls. -/
theorem avoids_runHooks
    (hcalls : ∀ hook ∈ hooks, ∀ around, (call hook.action context around).join.Avoids mishap)
    (around : ρ) : (runHooks call context hooks around).Avoids mishap := by
  induction hooks generalizing around with
  | nil => exact Task.avoids_done _
  | cons hook rest ih =>
      obtain ⟨hhead, htail⟩ := List.forall_mem_cons.mp hcalls
      refine (Task.avoids_report _).bind fun _ => (hhead _).bind ?_
      rintro ⟨_ | message, around⟩
      · exact ih htail around
      · exact Task.avoids_done _

theorem avoids_runAllHooks
    (hcalls : ∀ hook ∈ hooks, ∀ around, (call hook.action context around).join.Avoids mishap)
    (around : ρ) : (runAllHooks call context hooks around).Avoids mishap := by
  induction hooks generalizing around with
  | nil => exact Task.avoids_done _
  | cons hook rest ih =>
      obtain ⟨hhead, htail⟩ := List.forall_mem_cons.mp hcalls
      refine (Task.avoids_report _).bind fun _ => (hhead _).bind fun result => ?_
      exact (ih htail result.2).bind fun _ => Task.avoids_done _

end Avoids

end Suite

/-! ## Steps -/

/-- How an attempt came out. A failed step goes with the number of retries that the definition allows
whose handler was called for it, if it says so. -/
inductive Outcome
  | noWorld (message : String)
  | refused (error : HookError)
  | failed (error : StepError) (allowed : Option Nat)
  | passed
deriving DecidableEq

namespace ScenarioRunner

variable (runner : ScenarioRunner σ ω) (instance_ : Instance) (number : Nat)

/-- The number of retries that the definition of a step allows, if there is one and it says so. -/
def allowed (step : Step) : Option Nat :=
  (runner.suite.definitions.resolveStep? step).bind fun found => found.definition.options.maxRetries

/-- The hooks of a phase are called around a step up to the first that fails. -/
abbrev BeforeStep (step : Step) : ω → List (Task.Act σ Event) → Option HookError → ω → Prop :=
  let context := hookContext instance_ (some step) none number
  Suite.HooksRun Suite.callWithWorld context (runner.suite.hooksFor .beforeStep context)

/-- All hooks after a step are called, given how it ended. -/
abbrev AfterStep (step : Step) (status : Status) :
    ω → List (Task.Act σ Event) → List HookError → ω → Prop :=
  let context := hookContext instance_ (some step) (some status) number
  Suite.AllHooksRun Suite.callWithWorld context (runner.suite.hooksFor .afterStep context)

/-- A step is run on a world: what is done for it, how it failed if it did, and the world that it
leaves. Where a hook before it fails no handler is called; hooks after it count only where the step
has not failed yet. -/
inductive StepRuns (step : Step) (world : ω) :
    List (Task.Act σ Event) → Option (StepError × Option Nat) → ω → Prop
  | refused {before after : List (Task.Act σ Event)} {error : HookError} {errors : List HookError}
      {world' world'' : ω}
      (hbefore : runner.BeforeStep instance_ number step world before (some error) world')
      (hafter : runner.AfterStep instance_ number step .failed world' after errors world'') :
      StepRuns step world (before ++ after) (some (.hook step.text error, none)) world''
  | called {before acts after : List (Task.Act σ Event)} {error : Option StepError}
      {errors : List HookError} {world' world'' world''' : ω}
      (hbefore : runner.BeforeStep instance_ number step world before none world')
      (hcall : (runner.dispatch instance_ step number world').Ends acts
        (.finished (error, world'')))
      (hafter : runner.AfterStep instance_ number step (.ofError error) world'' after errors world''') :
      StepRuns step world (before ++ (acts ++ after))
        ((error.or (errors.head?.map (.hook step.text))).map (·, runner.allowed step)) world'''

/-- Steps are run in order up to the first that fails. -/
inductive StepsRun : List (Step × Bool) → ω → List (Task.Act σ Event) →
    Option (StepError × Option Nat) → ω → Prop
  | nil (world : ω) : StepsRun [] world [] none world
  | fails {step rest world world' acts error}
      (hstep : StepRuns runner instance_ number step.1 world acts (some error) world') :
      StepsRun (step :: rest) world acts (some error) world'
  | passes {step rest world world' world'' acts later failure}
      (hstep : StepRuns runner instance_ number step.1 world acts none world')
      (hrest : StepsRun rest world' later failure world'') :
      StepsRun (step :: rest) world (acts ++ later) failure world''

/-- The hooks before the scenario are called up to the first that fails. -/
abbrev BeforeScenario : ω → List (Task.Act σ Event) → Option HookError → ω → Prop :=
  let context := hookContext instance_ none none number
  Suite.HooksRun Suite.callWithWorld context (runner.suite.hooksFor .before context)

/-- An attempt is made: what is done for it and how it comes out. -/
inductive Attempted : List (Task.Act σ Event) → Outcome → Prop
  | noWorld {acts : List (Task.Act σ Event)} {message : String}
      (hworld : runner.suite.newWorld.guarded.Ends acts (.finished (.ok (.error message)))) :
      Attempted (.emit (.world instance_.key number) :: acts) (.noWorld message)
  | worldCrashed {acts : List (Task.Act σ Event)} {panic : Panic}
      (hworld : runner.suite.newWorld.guarded.Ends acts (.finished (.error panic))) :
      Attempted (.emit (.world instance_.key number) :: acts) (.noWorld panic.message)
  | refused {acts before : List (Task.Act σ Event)} {error : HookError} {world world' : ω}
      (hworld : runner.suite.newWorld.guarded.Ends acts (.finished (.ok (.ok world))))
      (hbefore : runner.BeforeScenario instance_ number world before (some error) world') :
      Attempted (.emit (.world instance_.key number) :: (acts ++ before)) (.refused error)
  | failed {acts before steps : List (Task.Act σ Event)} {error : StepError} {allowed : Option Nat}
      {world world' world'' : ω}
      (hworld : runner.suite.newWorld.guarded.Ends acts (.finished (.ok (.ok world))))
      (hbefore : runner.BeforeScenario instance_ number world before none world')
      (hsteps : StepsRun runner instance_ number instance_.allSteps world' steps
        (some (error, allowed)) world'') :
      Attempted (.emit (.world instance_.key number) :: (acts ++ (before ++ steps)))
        (.failed error allowed)
  | passed {acts before steps : List (Task.Act σ Event)} {world world' world'' : ω}
      (hworld : runner.suite.newWorld.guarded.Ends acts (.finished (.ok (.ok world))))
      (hbefore : runner.BeforeScenario instance_ number world before none world')
      (hsteps : StepsRun runner instance_ number instance_.allSteps world' steps none world'') :
      Attempted (.emit (.world instance_.key number) :: (acts ++ (before ++ steps))) .passed

/-- What an attempt tells about its failure, and the retries that it allows, fit how it comes out. -/
def Fits (runner : ScenarioRunner σ ω) : Outcome → Option AttemptFailure → Prop
  | .noWorld message, failure => failure = some (.world message)
  | .refused error, failure => failure = some (.beforeHook error)
  | .failed error allowed, failure => ∃ failed, failure = some (.step failed) ∧ failed.error = error ∧
      ∀ plan : RetryPlan, runner.budget plan failed = allowed.getD plan.retries
  | .passed, failure => failure = none

end ScenarioRunner

end Acceptance
