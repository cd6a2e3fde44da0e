import Acceptance.Proofs.Definition.FirstMatch
import Acceptance.Proofs.Scenario.Trace

/-!
# The budget of a failed step

How often an attempt that failed on a step may be followed by another one. A definition may give its
own budget of retries, which takes the place of the planned one wherever the step got to its
definition. Where a hook before the step fails it does not, and the planned budget stays in force.
-/

namespace Acceptance

open Acceptance.Task (Act Loss)

variable {σ ω ρ : Type}

/-! ## How a step fails -/

namespace Suite

variable {call : HookCall σ ω ρ} {context : HookContext} {hooks : List (Hook (HookAction σ ω))}
  {around around' : ρ} {acts : List (Act σ Event)}

theorem HooksRun.phase_eq {phase : Phase} {error : HookError}
    (h : HooksRun call context hooks around acts (some error) around')
    (hphase : ∀ hook ∈ hooks, hook.phase = phase) : error.phase = phase := by
  generalize hfailure : some error = failure at h
  induction h with
  | nil _ => cases hfailure
  | fails _ =>
      cases hfailure
      exact hphase _ List.mem_cons_self
  | passes _ _ ih => exact ih (fun hook hhook => hphase hook (List.mem_cons_of_mem _ hhook)) hfailure

theorem AllHooksRun.phase_eq {phase : Phase} {errors : List HookError}
    (h : AllHooksRun call context hooks around acts errors around')
    (hphase : ∀ hook ∈ hooks, hook.phase = phase) : ∀ error ∈ errors, error.phase = phase := by
  induction h with
  | nil _ => exact nofun
  | @cons hook rest _ _ _ failure errors _ _ _ _ ih =>
      obtain ⟨hhead, htail⟩ := List.forall_mem_cons.mp hphase
      intro error herror
      rcases List.mem_append.mp herror with hown | hlater
      · obtain ⟨message, -, rfl⟩ := Option.map_eq_some_iff.mp (Option.mem_toList.mp hown)
        exact hhead
      · exact ih htail error hlater

end Suite

namespace ScenarioRunner

variable (runner : ScenarioRunner σ ω) (instance_ : Instance) (number : Nat)

/-- The ways in which a step fails: on a hook before it, for want of a definition, on its handler, on the
time limit of its handler, or on a hook after it. -/
inductive FailsOn (step : Step) : StepFailure → Prop
  | before {error : HookError} (h : error.phase = .beforeStep) :
      FailsOn step ⟨.hook step.text error, false⟩
  | undefined (h : runner.suite.definitions.resolve? step.text = none) :
      FailsOn step ⟨.notFound step.text, true⟩
  | handler (message : String) : FailsOn step ⟨.failed step.text message, true⟩
  | limit (limit : Duration) : FailsOn step ⟨.timeout step.text limit, true⟩
  | after {error : HookError} (h : error.phase = .afterStep) :
      FailsOn step ⟨.hook step.text error, true⟩

section Failure

variable {runner instance_ number} {step : Step} {world world' : ω} {acts : List (Act σ Event)}
  {failure : StepFailure}

theorem HandlerRuns.failsOn {limit : Option Duration} {handler : Task (σ × ω) Event Reply}
    {error : StepError} (h : HandlerRuns step.text limit handler world acts (some error) world') :
    FailsOn runner step ⟨error, true⟩ := by
  cases h with
  | failed _ => exact .handler _
  | crashed _ => exact .handler _
  | timedOut _ _ => exact .limit _

theorem Dispatched.failsOn {error : StepError}
    (h : Dispatched runner instance_ number step world acts (some error) world') :
    FailsOn runner step ⟨error, true⟩ := by
  cases h with
  | defined _ _ hruns => exact hruns.failsOn
  | undefined hnone _ => exact .undefined (Option.map_eq_none_iff.mp hnone)
  | declined hnone _ _ => exact .undefined (Option.map_eq_none_iff.mp hnone)
  | takenOver _ _ _ hruns => exact hruns.failsOn

theorem StepLived.failsOn
    (h : StepLived runner instance_ number step world acts (some failure) world') :
    FailsOn runner step failure := by
  cases h with
  | refused hbefore _ => exact .before (hbefore.phase_eq fun _ => Suite.phase_of_mem_hooksFor)
  | failed _ hcall _ => exact hcall.failsOn
  | spoiled _ _ hafter =>
      exact .after (hafter.phase_eq (fun _ => Suite.phase_of_mem_hooksFor) _ List.mem_cons_self)

/-- The steps of a scenario fail with the failure of one of them. -/
theorem StepsLived.exists_failed {steps : List (Step × Bool)} {records : List StepRecord}
    (h : StepsLived runner instance_ number steps world acts records (some failure) world') :
    ∃ step ∈ steps, ∃ own ownActs own',
      StepLived runner instance_ number step.1 own ownActs (some failure) own' := by
  generalize hfailed : some failure = failed at h
  induction h with
  | nil _ => cases hfailed
  | fails hstep =>
      cases hfailed
      exact ⟨_, List.mem_cons_self, _, _, _, hstep⟩
  | passes _ _ ih =>
      obtain ⟨step, hmem, hlived⟩ := ih hfailed
      exact ⟨step, List.mem_cons_of_mem _ hmem, hlived⟩

theorem Opened.exists_failed {ended : Attempt ω} (h : Opened runner instance_ number acts ended)
    (hfailure : ended.failure = some (.step failure)) :
    ∃ step ∈ instance_.allSteps, ∃ world stepActs world',
      StepLived runner instance_ number step.1 world stepActs (some failure) world' := by
  cases h with
  | noWorld _ => cases hfailure
  | worldCrashed _ => cases hfailure
  | refused _ _ => cases hfailure
  | stepped _ _ hsteps =>
      obtain ⟨found, rfl, heq⟩ := Option.map_eq_some_iff.mp hfailure
      cases heq
      exact hsteps.exists_failed

end Failure

/-! ## What a budget decides -/

variable {runner instance_ number} {failure : StepFailure}

/-- Whatever comes of a step that its definition gives a budget for, the decision is made within this
budget, except where a hook before the step fails: the planned budget counts then. -/
theorem own_budget_unless_refused {acts : List (Act σ Event)} {ended : Attempt ω} {own : Nat}
    {found : Resolution (Handler σ ω)}
    (hattempt : (runner.attempt instance_ number).Ends acts (.finished ended))
    (hfailure : ended.failure = some (.step failure))
    (hfound : runner.suite.definitions.resolve? failure.error.step = some found)
    (hown : found.definition.options.maxRetries = some own) :
    ∃ step ∈ instance_.allSteps, step.1.text = failure.error.step ∧
      (∃ world stepActs world',
        StepLived runner instance_ number step.1 world stepActs (some failure) world') ∧
      (((∃ message, failure.error = .failed step.1.text message) ∨
          (∃ limit, failure.error = .timeout step.1.text limit) ∨
          ∃ error, failure.error = .hook step.1.text error ∧ error.phase = .afterStep) ∧
        DecidesWithin runner instance_ number failure own ∨
      (∃ error, failure.error = .hook step.1.text error ∧ error.phase = .beforeStep) ∧
        DecidesWithin runner instance_ number failure (runner.plan instance_).retries) := by
  obtain ⟨step, hmem, world, stepActs, world', hlived⟩ :=
    (opened_of_ends hattempt).exists_failed hfailure
  have hbudget : (runner.suite.definitions.budget? failure.error.step).getD
      (runner.plan instance_).retries = own := by
    rw [Definitions.budget?, hfound, Option.bind_some, hown, Option.getD_some]
  cases hlived.failsOn with
  | before hphase =>
      -- The step did not get to its definition, so what this one allows is not looked up.
      refine ⟨step, hmem, rfl, ⟨world, stepActs, world', hlived⟩, .inr ⟨⟨_, rfl, hphase⟩, ?_⟩⟩
      exact decidesWithin_budget rfl
  | undefined hnone => exact absurd hfound (by simp [StepError.step, hnone])
  | handler message =>
      refine ⟨step, hmem, rfl, ⟨world, stepActs, world', hlived⟩, .inl ⟨.inl ⟨message, rfl⟩, ?_⟩⟩
      exact hbudget ▸ decidesWithin_budget rfl
  | limit limit =>
      refine ⟨step, hmem, rfl, ⟨world, stepActs, world', hlived⟩,
        .inl ⟨.inr (.inl ⟨limit, rfl⟩), ?_⟩⟩
      exact hbudget ▸ decidesWithin_budget rfl
  | after hphase =>
      refine ⟨step, hmem, rfl, ⟨world, stepActs, world', hlived⟩,
        .inl ⟨.inr (.inr ⟨_, rfl, hphase⟩), ?_⟩⟩
      exact hbudget ▸ decidesWithin_budget rfl

/-- A suite with some hooks whose only definition allows no retries, while the whole run allows one. Its
handler fails. -/
def stuck (hooks : Hooks (HookAction PUnit PUnit)) (matcher : Matcher) : ScenarioRunner PUnit PUnit where
  suite :=
    { definitions :=
        { entries := [⟨0, matcher, fun _ => .done (.done (.error "stuck")), { maxRetries := some 0 },
            ⟨"steps.rs", 1, 1⟩⟩]
          resolution := [0]
          listed := Definitions.listed_singleton }
      hooks
      newWorld := .done (.done (.ok ⟨⟩)) }
  options := { retries := 1 }
  strategy := .unconditional

/-- A hook before each step that fails. -/
def locked : Hooks (HookAction PUnit PUnit) :=
  Hooks.register {} .beforeStep
    ⟨fun _ => .done (.done (.error "locked")), fun _ => .done (.done (.ok ⟨⟩))⟩ [] 0

theorem captures_door :
    ∃ matcher, Matcher.compileWithin none (.expression "the door opens") = .ok matcher ∧
      matcher.captures "the door opens" = some [] := by
  refine ⟨_, rfl, ?_⟩
  decide +kernel

/-- Where the hook fails there are two attempts, although the definition allows no retries. -/
theorem locked_tries_twice :
    ∃ matcher, Matcher.compileWithin none (.expression "the door opens") = .ok matcher ∧
      (∃ found, (stuck locked matcher).suite.definitions.resolve? "the door opens" = some found ∧
        found.definition.options.maxRetries = some 0) ∧
      ∃ records, (((stuck locked matcher).run oneStep).run 0 ⟨⟩).ending = .finished records ∧
        records.map Record.error =
          [some (.step (.hook "the door opens" ⟨.beforeStep, "locked"⟩)),
            some (.retryExhausted 2 (.step (.hook "the door opens" ⟨.beforeStep, "locked"⟩)))] := by
  obtain ⟨matcher, hcompile, hcaptures⟩ := captures_door
  exact ⟨matcher, hcompile, ⟨_, Definitions.resolve?_of_singleton rfl hcaptures, rfl⟩, _, by cbv, by cbv⟩

theorem own_budget_unless_refused_stuck :
    ∃ matcher ended failure, Matcher.compileWithin none (.expression "the door opens") = .ok matcher ∧
      (((stuck {} matcher).attempt oneStep 1).run 0 ⟨⟩).ending = .finished ended ∧
        ended.failure = some (.step failure) ∧ failure.error = .failed "the door opens" "stuck" ∧
          DecidesWithin (stuck {} matcher) oneStep 1 failure 0 := by
  obtain ⟨matcher, hcompile, hcaptures, ended, hended, hfailure⟩ :
      ∃ matcher, Matcher.compileWithin none (.expression "the door opens") = .ok matcher ∧
        matcher.captures "the door opens" = some [] ∧
        ∃ ended, (((stuck {} matcher).attempt oneStep 1).run 0 ⟨⟩).ending = .finished ended ∧
          ended.failure = some (.step ⟨.failed "the door opens" "stuck", true⟩) :=
    ⟨_, rfl, by decide +kernel, _, by cbv, by cbv⟩
  obtain ⟨acts, hends, _⟩ := Task.run_ends ((stuck {} matcher).attempt oneStep 1) 0 ⟨⟩
  rw [hended] at hends
  obtain ⟨step, _, _, _, ⟨_, hdecides⟩ | ⟨⟨error, heq, _⟩, _⟩⟩ := own_budget_unless_refused hends hfailure
    (Definitions.resolve?_of_singleton rfl hcaptures) rfl
  · exact ⟨matcher, ended, _, hcompile, hended, hfailure, rfl, hdecides⟩
  · cases heq

end ScenarioRunner

end Acceptance
