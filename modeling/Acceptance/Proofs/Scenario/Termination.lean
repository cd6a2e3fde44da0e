import Acceptance.Proofs.Definition.FirstMatch
import Acceptance.Proofs.Scenario.Trace

/-!
# The end of a run

The budget of retries is told by the step that an attempt failed on, and so may change from one attempt
to the next. No budget is larger than the largest one of the plan and of all definitions, so this one
bounds the attempts of every run. A run that has an answer to each of its calls gives their records.
-/

namespace Acceptance.ScenarioRunner

open Acceptance.Task (Act Loss)

variable {σ ω : Type}

/-! ## Runs that answer -/

/-- Whatever a runner calls answers it. What is awaited of hooks, handlers and the creation of a world
may fail and crash, and that of a handler under a limit may even hang. No call of them may crash, nor
may the strategy, the offer to the fallback and the drop of a world. -/
structure Answers (runner : ScenarioRunner σ ω) : Prop where
  world : runner.suite.newWorld.IsAnswered
  hooks : ∀ hook ∈ runner.suite.hooks.entries, ∀ context,
    (hook.action.withWorld context).IsAnswered ∧ (hook.action.alone context).IsAnswered
  calls : ∀ definition ∈ runner.suite.definitions.entries, ∀ context mishap,
    (definition.handler context).Avoids mishap
  handlers : ∀ definition ∈ runner.suite.definitions.entries, ∀ context acts handler,
    (definition.handler context).Ends acts (.finished handler) →
      definition.options.timeout.or runner.options.stepTimeout = none → handler.Avoids .hang
  offers : ∀ fallback ∈ runner.suite.fallback, ∀ context mishap, (fallback context).Avoids mishap
  takenOver : ∀ fallback ∈ runner.suite.fallback, ∀ context acts handler,
    (fallback context).Ends acts (.finished (some handler)) → runner.options.stepTimeout = none →
      handler.Avoids .hang
  strategy : ∀ error context mishap, (runner.strategy error context).Avoids mishap
  drop : ∀ world mishap, (runner.suite.dropWorld world).Avoids mishap

section Avoids

variable {runner : ScenarioRunner σ ω} {instance_ : Instance} {number : Nat} {mishap : Task.Mishap}

theorem avoids_execute {text : String} {limit : Option Duration} {handler : Task (σ × ω) Event Reply}
    (h : limit = none → handler.Avoids .hang) (world : ω) :
    (execute text limit handler world).Avoids mishap := by
  have hlimit : (handler.withinLimit (limit.map Duration.nanoseconds)).Avoids .hang :=
    .withinLimit fun hnone => h (Option.map_eq_none_iff.mp hnone)
  exact (hlimit.onPrivate world).bind fun _ => Task.avoids_done _

variable (answers : runner.Answers)

include answers

theorem Answers.avoids_callWithWorld {phase : Phase} {context listed : HookContext} :
    ∀ hook ∈ runner.suite.hooksFor phase listed, ∀ world,
      (Suite.callWithWorld hook.action context world).join.Avoids mishap :=
  fun hook hhook => Suite.avoids_callWithWorld
    (answers.hooks hook (Suite.mem_of_mem_hooksFor hhook) context).1

theorem Answers.avoids_callAlone {phase : Phase} {context listed : HookContext} :
    ∀ hook ∈ runner.suite.hooksFor phase listed, ∀ around,
      (Suite.callAlone hook.action context around).join.Avoids mishap :=
  fun hook hhook => Suite.avoids_callAlone
    (answers.hooks hook (Suite.mem_of_mem_hooksFor hhook) context).2

theorem Answers.avoids_runFallback (step : Step) (world : ω) :
    (runner.runFallback instance_ step number world).Avoids mishap := by
  unfold runFallback
  split
  next => exact Task.avoids_done _
  next fallback hfallback =>
    let context := stepContext step (Argument.attachments step) number
    refine (Task.avoids_report _).bind fun _ => Task.Avoids.bind_of_ends
      ((answers.offers fallback hfallback context mishap).beside world) ?_
    rintro acts ⟨_ | handler, world'⟩ hends
    · exact Task.avoids_done _
    obtain ⟨inner, ended, own, hinner, heq⟩ := hends.of_beside
    cases ended <;> cases heq
    exact avoids_execute (answers.takenOver fallback hfallback context inner handler hinner) _

theorem Answers.avoids_dispatch (step : Step) (world : ω) :
    (runner.dispatch instance_ step number world).Avoids mishap := by
  unfold dispatch
  split
  next => exact answers.avoids_runFallback step world
  next found hfound =>
    have hmem := Definitions.mem_of_resolveStep? hfound
    let context := stepContext step found.args number
    refine (Task.avoids_report _).bind fun _ => Task.Avoids.bind_of_ends
      ((answers.calls found.definition hmem context mishap).beside world) ?_
    rintro acts ⟨handler, world'⟩ hends
    obtain ⟨inner, ended, own, hinner, heq⟩ := hends.of_beside
    cases ended <;> cases heq
    exact avoids_execute (answers.handlers found.definition hmem context inner handler hinner) _

theorem Answers.avoids_runStep (step : Step) (world : ω) :
    (runner.runStep instance_ number step world).Avoids mishap := by
  unfold runStep
  refine (Suite.avoids_runHooks answers.avoids_callWithWorld world).bind ?_
  rintro ⟨refused, world'⟩
  cases refused with
  | some error =>
      exact (Suite.avoids_runAllHooks answers.avoids_callWithWorld _).bind fun _ => Task.avoids_done _
  | none =>
      refine (answers.avoids_dispatch step world').bind fun _ => ?_
      exact (Suite.avoids_runAllHooks answers.avoids_callWithWorld _).bind fun _ => Task.avoids_done _

theorem Answers.avoids_runSteps (steps : List (Step × Bool)) (world : ω) :
    (runner.runSteps instance_ number steps world).Avoids mishap := by
  induction steps generalizing world with
  | nil => exact Task.avoids_done _
  | cons step rest ih =>
      refine (answers.avoids_runStep step.1 world).bind ?_
      rintro ⟨_ | failure, world'⟩
      · exact (ih world').bind fun _ => Task.avoids_done _
      · exact Task.avoids_done _

theorem Answers.avoids_attempt : (runner.attempt instance_ number).Avoids mishap := by
  refine (Task.avoids_report _).bind fun _ => answers.world.guarded.bind ?_
  rintro (panic | message | world)
  · exact Task.avoids_done _
  · exact Task.avoids_done _
  refine (Suite.avoids_runHooks answers.avoids_callWithWorld world).bind ?_
  rintro ⟨_ | error, world'⟩
  · exact (answers.avoids_runSteps _ world').bind fun _ => Task.avoids_done _
  · exact Task.avoids_done _

theorem Answers.avoids_decide (plan : RetryPlan) (failure : Option AttemptFailure) :
    (runner.decide instance_ plan number failure).Avoids mishap := by
  rcases failure with _ | _ | _ | failure
  · exact Task.avoids_done _
  · exact Task.avoids_done _
  · exact Task.avoids_done _
  obtain ⟨-, heq⟩ | ⟨-, ⟨-, _, heq⟩ | ⟨-, heq⟩⟩ := decide_step runner instance_ number plan failure
  · rw [heq]
    exact Task.avoids_done _
  · rw [heq]
    exact ((answers.strategy _ _ mishap).bind fun _ => Task.avoids_done _).emit _
  · rw [heq]
    exact Task.avoids_done _

theorem Answers.avoids_finish (startedAt : Nat) (ended : Attempt ω) (status : Status)
    (error : Option ScenarioError) :
    (runner.finish instance_ number startedAt ended status error).Avoids mishap := by
  obtain ⟨steps, failure, _ | world⟩ := ended
  · refine (Suite.avoids_runAllHooks answers.avoids_callAlone _).bind fun _ => ?_
    exact Task.avoids_now.bind fun _ => Task.avoids_done _
  · refine (Suite.avoids_runAllHooks answers.avoids_callWithWorld _).bind fun result => ?_
    exact (answers.drop result.2 mishap).bind fun _ => Task.avoids_now.bind fun _ => Task.avoids_done _

theorem Answers.avoids_attemptsFrom (plan : RetryPlan) (number : Nat) :
    (runner.attemptsFrom instance_ plan number).Avoids mishap := by
  rw [attemptsFrom]
  refine Task.avoids_now.bind fun startedAt => answers.avoids_attempt.bind fun ended => ?_
  refine (answers.avoids_decide plan ended.failure).bind ?_
  rintro (⟨status, error⟩ | ⟨error, within⟩)
  · exact (answers.avoids_finish startedAt ended status error).bind fun _ => Task.avoids_done _
  · refine (answers.avoids_finish startedAt ended _ _).bind fun _ => (Task.avoids_wait _).bind fun _ => ?_
    exact (Answers.avoids_attemptsFrom plan (number + 1)).bind fun _ => Task.avoids_done _
termination_by runner.maxBudget plan + 1 - number

end Avoids

/-! ## The bound -/

variable (runner : ScenarioRunner σ ω) (instance_ : Instance)

/-- The fallback takes every step over and fails, which is an answer. -/
theorem answers_stubborn : stubborn.Answers where
  world := Task.isAnswered_done (Task.avoids_done _)
  hooks := nofun
  calls := nofun
  handlers := nofun
  offers := by
    rintro fallback ⟨⟩ context mishap
    exact Task.avoids_done _
  takenOver := by
    rintro fallback ⟨⟩ context acts handler hoffer -
    obtain ⟨-, heq⟩ := Task.ends_done.mp hoffer
    cases heq
    exact Task.avoids_done _
  strategy _ _ _ := Task.avoids_done _
  drop _ _ := Task.avoids_done _

end Acceptance.ScenarioRunner
