import Acceptance.Proofs.Definition.FirstMatch
import Acceptance.Proofs.Scenario.Attempt
import Acceptance.Proofs.Task.Agreement

/-!
# Scenarios that run alike

Two runners that differ in what they call only give the same records of a scenario, but for the times in
them, as long as all that they call for this scenario does the same. What they call for other scenarios
does not matter. So a runner gives the same records of a scenario in every run of it, whatever else runs
meanwhile, where handlers, hooks, the creation of worlds and the retry strategy are steady.
-/

namespace Acceptance

variable {σ ω ρ : Type}

/-- A record without its times. -/
def Record.untimed (record : Record) : Record := { record with startedAt := 0, finishedAt := 0 }

/-! ## Definitions without their handlers -/

/-- A definition without its handler. -/
def Definition.erase {η : Type} (definition : Definition η) : Definition PUnit :=
  { definition with handler := ⟨⟩ }

/-- A resolution without the handler. -/
def Resolution.erase {η : Type} (found : Resolution η) : Resolution PUnit :=
  { found with definition := found.definition.erase }

namespace Definitions

variable {η : Type}

/-- The definitions without their handlers. -/
def erase (definitions : Definitions η) : Definitions PUnit :=
  { definitions with
    entries := definitions.entries.map Definition.erase
    listed := by
      rw [List.length_map]
      exact definitions.listed }

/-- Which definition applies to a text does not depend on handlers. -/
theorem resolve?_erase (definitions : Definitions η) (text : String) :
    definitions.erase.resolve? text = (definitions.resolve? text).map Resolution.erase := by
  have horder : definitions.erase.inOrder = definitions.inOrder.map Definition.erase := by
    simp only [inOrder, erase, List.getElem?_map, List.map_filterMap]
  have hmatched (definition : Definition η) :
      matched? definitions.resolver text definition.erase =
        (matched? definitions.resolver text definition).map Resolution.erase := by
    rw [matched?, matched?, Option.map_map]
    rfl
  rw [resolve?, horder, List.findSome?_map, resolve?, List.map_findSome?]
  exact congrArg (List.findSome? · definitions.inOrder) (funext hmatched)

theorem resolveStep?_erase (definitions : Definitions η) (step : Step) :
    definitions.erase.resolveStep? step = (definitions.resolveStep? step).map Resolution.erase := by
  rw [resolveStep?, resolveStep?, resolve?_erase, Option.map_map, Option.map_map]
  rfl

theorem budget?_erase (definitions : Definitions η) (text : String) :
    definitions.erase.budget? text = definitions.budget? text := by
  rw [budget?, budget?, resolve?_erase, Option.bind_map]
  rfl

end Definitions

/-- The hooks of a phase that apply in a context do the same in two suites, on worlds of some kind. -/
def Suite.AgreeWithWorld (left right : Suite σ ω) (met : ω → Prop) (phase : Phase)
    (context : HookContext) : Prop :=
  List.Forall₂ (fun hook hook' =>
    Task.AgreeOn met (hook.action.withWorld context) (hook'.action.withWorld context))
    (left.hooksFor phase context) (right.hooksFor phase context)

/-- The hooks of a phase that apply in a context do the same in two suites where there is no world. -/
def Suite.AgreeAlone (left right : Suite σ ω) (phase : Phase) (context : HookContext) : Prop :=
  List.Forall₂ (fun hook hook' =>
    Task.Agree (· = ·) (hook.action.alone context).guarded (hook'.action.alone context).guarded)
    (left.hooksFor phase context) (right.hooksFor phase context)

namespace ScenarioRunner

/-- Two runners have the same options and the same definitions, but for their handlers. -/
structure Corresponds (left right : ScenarioRunner σ ω) : Prop where
  options : left.options = right.options
  definitions : left.suite.definitions.erase = right.suite.definitions.erase

/-! ## What is called for a scenario -/

/-- A step is one of those that an instance runs. -/
def HasStep (instance_ : Instance) (step : Step) : Prop :=
  ∃ background, (step, background) ∈ instance_.allSteps

/-- A context is one that hooks around an instance or around one of its steps are told. -/
def IsContext (instance_ : Instance) (context : HookContext) : Prop :=
  ∃ step status attempt, (∀ told ∈ step, HasStep instance_ told) ∧
    context = hookContext instance_ step status attempt

/-- What comes of the call of a definition on a world, and of the handler that it gives within the limit
that it has. -/
def handling (runner : ScenarioRunner σ ω) (definition : Definition (Handler σ ω))
    (context : StepContext) (world : ω) : Task σ Event (Except Panic (Option Reply) × ω) :=
  ((definition.handler context).beside world).bind fun called =>
    (called.1.withinLimit
      ((definition.options.timeout.or runner.options.stepTimeout).map Duration.nanoseconds)).onPrivate
      called.2

/-- Two fallbacks offer alike for a step: both decline it, or what they offer does the same within a
limit. -/
inductive OfferedAlike (limit : Option Nat) (met : ω → Prop) :
    Option (Task (σ × ω) Event Reply) × ω → Option (Task (σ × ω) Event Reply) × ω → Prop
  | declined {world : ω} (hworld : met world) : OfferedAlike limit met (none, world) (none, world)
  | taken {handler handler' : Task (σ × ω) Event Reply} {world : ω}
      (h : Task.Agree (Task.Kept met) ((handler.withinLimit limit).onPrivate world)
        ((handler'.withinLimit limit).onPrivate world)) :
      OfferedAlike limit met (some handler, world) (some handler', world)

/-- All that two runners call for an instance does the same, on worlds of a kind that the calls do not
leave. Nothing is said of what they call for other instances, or on worlds of another kind. -/
structure Alike (left right : ScenarioRunner σ ω) (instance_ : Instance) (met : ω → Prop) : Prop where
  newWorld : Task.Agree (fun made made' => made = made' ∧ ∀ world, made = .ok (.ok world) → met world)
    left.suite.newWorld.guarded right.suite.newWorld.guarded
  withWorld : ∀ phase context, IsContext instance_ context →
    left.suite.AgreeWithWorld right.suite met phase context
  alone : ∀ context, IsContext instance_ context → left.suite.AgreeAlone right.suite .after context
  handler : ∀ step, HasStep instance_ step → ∀ found found',
    left.suite.definitions.resolveStep? step = some found →
      right.suite.definitions.resolveStep? step = some found' → ∀ attempt world, met world →
        Task.Agree (Task.Kept met)
          (left.handling found.definition (stepContext step found.args attempt) world)
          (right.handling found'.definition (stepContext step found'.args attempt) world)
  fallback : ∀ step, HasStep instance_ step → left.suite.definitions.resolveStep? step = none →
    ∀ attempt, Option.Rel (fun fallback fallback' =>
      let context := stepContext step (Argument.attachments step) attempt
      ∀ world, met world →
        Task.Agree (OfferedAlike (left.options.stepTimeout.map Duration.nanoseconds) met)
          ((fallback context).beside world) ((fallback' context).beside world))
      left.suite.fallback right.suite.fallback
  strategy : ∀ error context, context.key = instance_.key →
    Task.Agree (· = ·) (left.strategy error context) (right.strategy error context)
  drop : ∀ world, met world →
    Task.Agree (· = ·) (left.suite.dropWorld world) (right.suite.dropWorld world)

/-- What follows an attempt is the same for two runners that may have different bounds. -/
inductive Verdict.Alike {number bound bound' : Nat} : Verdict number bound → Verdict number bound' → Prop
  | final (status : Status) (error : Option ScenarioError) :
      Alike (.final status error) (.final status error)
  | again (error : StepError) (within : number ≤ bound) (within' : number ≤ bound') :
      Alike (.again error within) (.again error within')

end ScenarioRunner

/-! ## Hooks -/

namespace Suite

variable {call : HookCall σ ω ρ} {phase : Phase} {context : HookContext}
  {hooks hooks' : List (Hook (HookAction σ ω))} {met : ω → Prop} {kept : ρ → Prop}

/-- Two hooks are called alike, whatever surrounds them. -/
def CalledAlike (call : HookCall σ ω ρ) (context : HookContext) (kept : ρ → Prop)
    (hook hook' : Hook (HookAction σ ω)) : Prop :=
  ∀ around, kept around →
    Task.Agree (Task.Kept kept) (call hook.action context around).join
      (call hook'.action context around).join

/-- The outcome of a hook, from that of its call and of what is awaited then. -/
theorem join_callWithWorld (action : HookAction σ ω) (context : HookContext) (world : ω) :
    (callWithWorld action context world).join = ((action.withWorld context).guardedOn world).bind
      fun result => .done (failure? result.1, result.2) := by
  rw [Task.join, callWithWorld, Task.bind_assoc, Task.guardedOn, Task.bind_assoc]
  rfl

theorem join_callAlone (action : HookAction σ ω) (context : HookContext) (around : PUnit) :
    (callAlone action context around).join = (action.alone context).guarded.bind
      fun result => .done (failure? result, ⟨⟩) := by
  rw [Task.join, callAlone, Task.bind_assoc, Task.guarded, Task.bind_assoc]
  rfl

theorem calledAlike_withWorld {hook hook' : Hook (HookAction σ ω)}
    (h : Task.AgreeOn met (hook.action.withWorld context) (hook'.action.withWorld context)) :
    CalledAlike callWithWorld context met hook hook' := by
  intro world hworld
  rw [join_callWithWorld, join_callWithWorld]
  refine (h world hworld).bind ?_
  rintro result _ ⟨rfl, hkept⟩
  exact .done ⟨rfl, hkept⟩

theorem calledAlike_alone {hook hook' : Hook (HookAction σ ω)}
    (h : Task.Agree (· = ·) (hook.action.alone context).guarded
      (hook'.action.alone context).guarded) :
    CalledAlike callAlone context (fun _ => True) hook hook' := by
  intro around _
  rw [join_callAlone, join_callAlone]
  refine h.bind ?_
  rintro result _ rfl
  exact .done ⟨rfl, trivial⟩

section Phase

variable (hphase : ∀ hook ∈ hooks, hook.phase = phase) (hphase' : ∀ hook ∈ hooks', hook.phase = phase)
  (hcalls : List.Forall₂ (CalledAlike call context kept) hooks hooks')

include hphase hphase' hcalls

theorem runHooks_agree {around : ρ} (haround : kept around) :
    Task.Agree (Task.Kept kept) (runHooks call context hooks around)
      (runHooks call context hooks' around) := by
  induction hcalls generalizing around with
  | nil => exact .done ⟨rfl, haround⟩
  | @cons hook hook' rest rest' hcall _ ih =>
      obtain ⟨hhead, htail⟩ := List.forall_mem_cons.mp hphase
      obtain ⟨hhead', htail'⟩ := List.forall_mem_cons.mp hphase'
      refine .report ((hcall around haround).bind ?_)
      rintro ⟨_ | message, around⟩ _ ⟨rfl, hkept⟩
      · exact ih htail htail' hkept
      · dsimp only
        rw [hhead, hhead']
        exact .done ⟨rfl, hkept⟩

theorem runAllHooks_agree {around : ρ} (haround : kept around) :
    Task.Agree (Task.Kept kept) (runAllHooks call context hooks around)
      (runAllHooks call context hooks' around) := by
  induction hcalls generalizing around with
  | nil => exact .done ⟨rfl, haround⟩
  | @cons hook hook' rest rest' hcall _ ih =>
      obtain ⟨hhead, htail⟩ := List.forall_mem_cons.mp hphase
      obtain ⟨hhead', htail'⟩ := List.forall_mem_cons.mp hphase'
      refine .report ((hcall around haround).bind ?_)
      rintro ⟨failure, around⟩ _ ⟨rfl, hkept⟩
      refine (ih htail htail' hkept).bind ?_
      rintro ⟨errors, around⟩ _ ⟨rfl, hkept⟩
      dsimp only
      rw [hhead, hhead']
      exact .done ⟨rfl, hkept⟩

end Phase

/-- Hooks without a world that are called alike in one phase end alike. -/
theorem runHooksAlone_agree {suite suite' : Suite σ ω} (h : suite.AgreeAlone suite' phase context) :
    Task.Agree (· = ·) (runHooks callAlone context (suite.hooksFor phase context) ⟨⟩)
      (runHooks callAlone context (suite'.hooksFor phase context) ⟨⟩) :=
  (runHooks_agree (fun _ => phase_of_mem_hooksFor) (fun _ => phase_of_mem_hooksFor)
    (List.Forall₂.imp (fun _ _ => calledAlike_alone) h) trivial).mono fun _ _ hsame => hsame.1

theorem runAllHooksAlone_agree {suite suite' : Suite σ ω} (h : suite.AgreeAlone suite' phase context) :
    Task.Agree (· = ·) (runAllHooks callAlone context (suite.hooksFor phase context) ⟨⟩)
      (runAllHooks callAlone context (suite'.hooksFor phase context) ⟨⟩) :=
  (runAllHooks_agree (fun _ => phase_of_mem_hooksFor) (fun _ => phase_of_mem_hooksFor)
    (List.Forall₂.imp (fun _ _ => calledAlike_alone) h) trivial).mono fun _ _ hsame => hsame.1

end Suite

namespace ScenarioRunner

variable {left right : ScenarioRunner σ ω} {instance_ : Instance} {met : ω → Prop}

theorem isContext_instance (instance_ : Instance) (status : Option Status) (attempt : Nat) :
    IsContext instance_ (hookContext instance_ none status attempt) :=
  ⟨none, status, attempt, nofun, rfl⟩

theorem isContext_step {step : Step} (hstep : HasStep instance_ step) (status : Option Status)
    (attempt : Nat) : IsContext instance_ (hookContext instance_ (some step) status attempt) := by
  refine ⟨some step, status, attempt, ?_, rfl⟩
  rintro _ ⟨rfl⟩
  exact hstep

/-- The first definition that matches a step is the same for both runners, but for its handler. -/
theorem Corresponds.resolveStep?_eq (corresponds : left.Corresponds right) (step : Step) :
    (left.suite.definitions.resolveStep? step).map Resolution.erase =
      (right.suite.definitions.resolveStep? step).map Resolution.erase := by
  rw [← Definitions.resolveStep?_erase, ← Definitions.resolveStep?_erase, corresponds.definitions]

theorem Corresponds.budget_eq (corresponds : left.Corresponds right) (plan : RetryPlan)
    (failure : StepFailure) : left.budget plan failure = right.budget plan failure := by
  rw [budget, budget, ← Definitions.budget?_erase left.suite.definitions, corresponds.definitions,
    Definitions.budget?_erase]

theorem execute_agree {text : String} {limit : Option Duration}
    {handler handler' : Task (σ × ω) Event Reply} {world : ω}
    (h : Task.Agree (Task.Kept met)
      ((handler.withinLimit (limit.map Duration.nanoseconds)).onPrivate world)
      ((handler'.withinLimit (limit.map Duration.nanoseconds)).onPrivate world)) :
    Task.Agree (Task.Kept met) (execute text limit handler world) (execute text limit handler' world) := by
  refine h.bind ?_
  rintro ⟨result, world⟩ _ ⟨rfl, hworld⟩
  exact .done ⟨rfl, hworld⟩

/-- What follows the calls of two definitions agrees if their handlings do. -/
theorem dispatched_agree {text : String} {limit : Option Duration}
    {call call' : Call (σ × ω)} {world : ω}
    (h : Task.Agree (Task.Kept met)
      ((call.beside world).bind fun called =>
        (called.1.withinLimit (limit.map Duration.nanoseconds)).onPrivate called.2)
      ((call'.beside world).bind fun called =>
        (called.1.withinLimit (limit.map Duration.nanoseconds)).onPrivate called.2)) :
    Task.Agree (Task.Kept met)
      ((call.beside world).bind fun called => execute text limit called.1 called.2)
      ((call'.beside world).bind fun called => execute text limit called.1 called.2) := by
  have hbind := h.bind (S := Task.Kept met) (f := fun result => .done (stepError? text limit result.1, result.2))
    (g := fun result => .done (stepError? text limit result.1, result.2)) ?_
  · rwa [Task.bind_assoc, Task.bind_assoc] at hbind
  · rintro ⟨result, world⟩ _ ⟨rfl, hworld⟩
    exact .done ⟨rfl, hworld⟩

namespace Alike

variable (alike : left.Alike right instance_ met)

include alike

theorem runHooks (phase : Phase) {context : HookContext} (hcontext : IsContext instance_ context)
    {world : ω} (hworld : met world) :
    Task.Agree (Task.Kept met)
      (Suite.runHooks Suite.callWithWorld context (left.suite.hooksFor phase context) world)
      (Suite.runHooks Suite.callWithWorld context (right.suite.hooksFor phase context) world) :=
  Suite.runHooks_agree (fun _ => Suite.phase_of_mem_hooksFor) (fun _ => Suite.phase_of_mem_hooksFor)
    (List.Forall₂.imp (fun _ _ => Suite.calledAlike_withWorld) (alike.withWorld phase context hcontext))
    hworld

theorem runAllHooks (phase : Phase) {context : HookContext} (hcontext : IsContext instance_ context)
    {world : ω} (hworld : met world) :
    Task.Agree (Task.Kept met)
      (Suite.runAllHooks Suite.callWithWorld context (left.suite.hooksFor phase context) world)
      (Suite.runAllHooks Suite.callWithWorld context (right.suite.hooksFor phase context) world) :=
  Suite.runAllHooks_agree (fun _ => Suite.phase_of_mem_hooksFor) (fun _ => Suite.phase_of_mem_hooksFor)
    (List.Forall₂.imp (fun _ _ => Suite.calledAlike_withWorld) (alike.withWorld phase context hcontext))
    hworld

/-- The record of an attempt differs in its times only. -/
theorem finish (number startedAt startedAt' : Nat) {ended : Attempt ω}
    (hended : ∀ world ∈ ended.world, met world) (status : Status) (error : Option ScenarioError) :
    Task.Agree (fun record record' => record.untimed = record'.untimed)
      (left.finish instance_ number startedAt ended status error)
      (right.finish instance_ number startedAt' ended status error) := by
  have hcontext := isContext_instance instance_ (some status) number
  unfold ScenarioRunner.finish
  split
  next world hworld =>
    refine (alike.runAllHooks .after hcontext (hended world hworld)).bind ?_
    rintro ⟨errors, world⟩ _ ⟨rfl, hworld⟩
    refine (alike.drop world hworld).bind fun _ _ _ => ?_
    exact .now fun _ _ => .done rfl
  next =>
    refine (Suite.runAllHooksAlone_agree (alike.alone _ hcontext)).bind ?_
    rintro _ _ rfl
    exact .now fun _ _ => .done rfl

variable (corresponds : left.Corresponds right)

include corresponds

/-! ## Steps -/

theorem runFallback {step : Step} (hstep : HasStep instance_ step)
    (hnone : left.suite.definitions.resolveStep? step = none) (attempt : Nat) {world : ω}
    (hworld : met world) :
    Task.Agree (Task.Kept met) (left.runFallback instance_ step attempt world)
      (right.runFallback instance_ step attempt world) := by
  have hfallback := alike.fallback step hstep hnone attempt
  unfold ScenarioRunner.runFallback
  generalize left.suite.fallback = fallback, right.suite.fallback = fallback' at hfallback
  cases hfallback with
  | none => exact .done ⟨rfl, hworld⟩
  | some h =>
      refine .report ((h world hworld).bind ?_)
      intro _ _ hoffered
      cases hoffered with
      | declined hkept => exact .done ⟨rfl, hkept⟩
      | taken hrun =>
          dsimp only
          rw [← corresponds.options]
          exact execute_agree hrun

theorem dispatch {step : Step} (hstep : HasStep instance_ step) (attempt : Nat) {world : ω}
    (hworld : met world) :
    Task.Agree (Task.Kept met) (left.dispatch instance_ step attempt world)
      (right.dispatch instance_ step attempt world) := by
  have hsame := corresponds.resolveStep?_eq step
  unfold ScenarioRunner.dispatch
  cases hleft : left.suite.definitions.resolveStep? step with
  | none =>
      rw [hleft, Option.map_none, eq_comm, Option.map_eq_none_iff] at hsame
      rw [hsame]
      exact runFallback alike corresponds hstep hleft attempt hworld
  | some found =>
      rw [hleft, Option.map_some, eq_comm, Option.map_eq_some_iff] at hsame
      obtain ⟨found', hright, herase⟩ := hsame
      have hrun := alike.handler step hstep found found' hleft hright attempt world hworld
      -- The handlers may differ, but not their limits, which come with the pattern.
      have hoptions := congrArg (fun found => found.definition.options.timeout) herase
      have hlimit : found'.definition.options.timeout.or right.options.stepTimeout =
          found.definition.options.timeout.or left.options.stepTimeout := by
        rw [corresponds.options]
        exact congrArg (Option.or · right.options.stepTimeout) hoptions
      rw [hright]
      refine .report ?_
      rw [hlimit]
      refine dispatched_agree ?_
      unfold handling at hrun
      rwa [hlimit] at hrun

theorem runStep {step : Step} (hstep : HasStep instance_ step) (attempt : Nat) {world : ω}
    (hworld : met world) :
    Task.Agree (Task.Kept met) (left.runStep instance_ attempt step world)
      (right.runStep instance_ attempt step world) := by
  have hafter (failure : Option StepFailure) {world : ω} (hworld : met world) :=
    alike.runAllHooks .afterStep (isContext_step hstep (some (.ofError failure)) attempt) hworld
  refine (alike.runHooks .beforeStep (isContext_step hstep none attempt) hworld).bind ?_
  rintro ⟨_ | error, world⟩ _ ⟨rfl, hworld⟩
  · refine (alike.dispatch corresponds hstep attempt hworld).bind ?_
    rintro ⟨error, world⟩ _ ⟨rfl, hworld⟩
    refine .bind_self (.done rfl) fun _ failure hdone => ?_
    cases (Task.ends_done.mp hdone).2
    refine (hafter _ hworld).bind ?_
    rintro ⟨errors, world⟩ _ ⟨rfl, hworld⟩
    exact .done ⟨rfl, hworld⟩
  · refine .bind_self (.done rfl) fun _ failure hdone => ?_
    cases (Task.ends_done.mp hdone).2
    refine (hafter _ hworld).bind ?_
    rintro ⟨errors, world⟩ _ ⟨rfl, hworld⟩
    exact .done ⟨rfl, hworld⟩

theorem runSteps (attempt : Nat) {steps : List (Step × Bool)}
    (hsteps : ∀ step ∈ steps, HasStep instance_ step.1) {world : ω} (hworld : met world) :
    Task.Agree (fun result result' => result = result' ∧ met result.2.2)
      (left.runSteps instance_ attempt steps world) (right.runSteps instance_ attempt steps world) := by
  induction steps generalizing world with
  | nil => exact .done ⟨rfl, hworld⟩
  | cons step rest ih =>
      obtain ⟨hhead, htail⟩ := List.forall_mem_cons.mp hsteps
      refine (alike.runStep corresponds hhead attempt hworld).bind ?_
      rintro ⟨_ | failure, world⟩ _ ⟨rfl, hworld⟩
      · refine (ih htail hworld).bind ?_
        rintro ⟨records, failure, world⟩ _ ⟨rfl, hworld⟩
        exact .done ⟨rfl, hworld⟩
      · -- Behind a step that failed no other is run.
        exact .done ⟨rfl, hworld⟩

/-! ## Attempts -/

theorem attempt (number : Nat) :
    Task.Agree (fun ended ended' => ended = ended' ∧ ∀ world ∈ ended.world, met world)
      (left.attempt instance_ number) (right.attempt instance_ number) := by
  refine .report (alike.newWorld.bind ?_)
  -- There is no world, whether this is told or a crash, or there is one.
  rintro (panic | message | world) _ ⟨rfl, hmet⟩
  · exact .done ⟨rfl, nofun⟩
  · exact .done ⟨rfl, nofun⟩
  · refine (alike.runHooks .before (isContext_instance instance_ none number) (hmet world rfl)).bind ?_
    rintro ⟨_ | error, world⟩ _ ⟨rfl, hworld⟩
    · refine (alike.runSteps corresponds number (fun step hmem => ⟨step.2, hmem⟩) hworld).bind ?_
      rintro ⟨records, failure, world⟩ _ ⟨rfl, hworld⟩
      exact .done ⟨rfl, by simpa using hworld⟩
    · exact .done ⟨rfl, by simpa using hworld⟩

theorem decide (plan : RetryPlan) (number : Nat) (failure : Option AttemptFailure) :
    Task.Agree Verdict.Alike (left.decide instance_ plan number failure)
      (right.decide instance_ plan number failure) := by
  rcases failure with _ | message | error | failure
  · exact .done (.final _ _)
  · exact .done (.final _ _)
  · exact .done (.final _ _)
  · have hbudget := corresponds.budget_eq plan failure
    unfold ScenarioRunner.decide
    dsimp only
    by_cases hretryable : failure.error.isRetryable
    · by_cases hleft : 0 < left.budget plan failure - (number - 1)
      · simp only [hretryable, Bool.not_true, Bool.false_eq_true, if_false, dif_pos hleft,
          dif_pos (hbudget ▸ hleft)]
        refine .report (Task.Agree.bind (R := (· = ·)) ?_ ?_)
        · rw [← hbudget]
          exact alike.strategy _ _ rfl
        · rintro (_ | _) _ rfl
          · exact .done (.final _ _)
          · exact .done (.again _ _ _)
      · have hleft' : ¬ 0 < right.budget plan failure - (number - 1) := hbudget ▸ hleft
        simp only [hretryable, Bool.not_true, Bool.false_eq_true, if_false, dif_neg hleft',
          hbudget]
        split <;> exact .done (.final _ _)
    · simp only [hretryable, Bool.not_false, if_true]
      exact .done (.final _ _)

theorem attemptsFrom (plan : RetryPlan) (number : Nat) :
    Task.Agree (fun records records' => records.map Record.untimed = records'.map Record.untimed)
      (left.attemptsFrom instance_ plan number) (right.attemptsFrom instance_ plan number) := by
  unfold ScenarioRunner.attemptsFrom
  refine .now fun startedAt startedAt' => (alike.attempt corresponds number).bind ?_
  rintro ended _ ⟨rfl, hended⟩
  refine (alike.decide corresponds plan number ended.failure).bind ?_
  intro _ _ hverdict
  cases hverdict with
  | final status error =>
      refine (alike.finish number startedAt startedAt' hended status error).bind ?_
      exact fun _ _ hrecord => .done (congrArg (fun record => [record]) hrecord)
  | again error hwithin _ =>
      refine (alike.finish number startedAt startedAt' hended .failed _).bind ?_
      intro record record' hrecord
      refine .bind (.wait _) fun _ _ _ => .bind (attemptsFrom plan (number + 1)) ?_
      intro records records' hrecords
      exact .done (by rw [List.map_cons, List.map_cons, hrecord, hrecords])
termination_by left.maxBudget plan + 1 - number

/-- An instance for which all is done alike has the same records in both runs, but for their times. -/
theorem run :
    Task.Agree (fun records records' => records.map Record.untimed = records'.map Record.untimed)
      (left.run instance_) (right.run instance_) := by
  have hplan : left.plan instance_ = right.plan instance_ := by
    rw [ScenarioRunner.plan, ScenarioRunner.plan, corresponds.options]
  rw [ScenarioRunner.run, ScenarioRunner.run, hplan]
  exact alike.attemptsFrom corresponds _ 1

end Alike

/-! ## Steady runners -/

/-- What a runner is given from outside is steady: it ends in the same way whatever others do to the
shared state meanwhile, and however late it goes on. Handlers are taken together with the limit that
they have, and what a fallback offers with the limit of the run. -/
structure Steady (runner : ScenarioRunner σ ω) : Prop where
  world : runner.suite.newWorld.guarded.IsSteady
  withWorld : ∀ hook ∈ runner.suite.hooks.entries, ∀ context world,
    ((hook.action.withWorld context).guardedOn world).IsSteady
  alone : ∀ hook ∈ runner.suite.hooks.entries, ∀ context, (hook.action.alone context).guarded.IsSteady
  handler : ∀ definition ∈ runner.suite.definitions.entries, ∀ context world,
    (runner.handling definition context world).IsSteady
  fallback : ∀ fallback ∈ runner.suite.fallback, ∀ context world,
    ((fallback context).beside world).IsSteady
  offered : ∀ fallback ∈ runner.suite.fallback, ∀ context world acts handler world',
    ((fallback context).beside world).Ends acts (.finished (some handler, world')) →
      ((handler.withinLimit (runner.options.stepTimeout.map Duration.nanoseconds)).onPrivate
        world').IsSteady
  strategy : ∀ error context, (runner.strategy error context).IsSteady
  drop : ∀ world, (runner.suite.dropWorld world).IsSteady

namespace Steady

variable {runner : ScenarioRunner σ ω} (steady : runner.Steady)

include steady

theorem agreeAlone (phase : Phase) (context : HookContext) :
    runner.suite.AgreeAlone runner.suite phase context := by
  rw [Suite.AgreeAlone, List.forall₂_same]
  intro hook hmem
  exact Task.isSteady_iff_agree.mp (steady.alone hook (Suite.mem_of_mem_hooksFor hmem) context)

theorem agree_fallback {fallback : Fallback σ ω} (hfallback : fallback ∈ runner.suite.fallback)
    (context : StepContext) (world : ω) :
    Task.Agree (OfferedAlike (runner.options.stepTimeout.map Duration.nanoseconds) fun _ => True)
      ((fallback context).beside world) ((fallback context).beside world) := by
  have hsteady := Task.isSteady_iff_agree.mp (steady.fallback fallback hfallback context world)
  refine hsteady.mono_of_ends ?_
  rintro acts ⟨_ | handler, world'⟩ _ hends rfl
  · exact .declined trivial
  · have hoffered := steady.offered fallback hfallback context world acts handler world' hends
    exact .taken ((Task.isSteady_iff_agree.mp hoffered).mono fun _ _ hsame => ⟨hsame, trivial⟩)

/-- A steady runner does the same for an instance in every run. -/
theorem alike (instance_ : Instance) : runner.Alike runner instance_ fun _ => True where
  newWorld := (Task.isSteady_iff_agree.mp steady.world).mono fun _ _ hsame =>
    ⟨hsame, fun _ _ => trivial⟩
  withWorld := by
    intro phase context _
    rw [Suite.AgreeWithWorld, List.forall₂_same]
    intro hook hmem world _
    have hsteady := steady.withWorld hook (Suite.mem_of_mem_hooksFor hmem) context world
    exact (Task.isSteady_iff_agree.mp hsteady).mono fun _ _ hsame => ⟨hsame, trivial⟩
  alone := fun context _ => steady.agreeAlone .after context
  handler := by
    intro step _ found found' hfound hfound' attempt world _
    cases hfound.symm.trans hfound'
    have hsteady := steady.handler found.definition (Definitions.mem_of_resolveStep? hfound)
      (stepContext step found.args attempt) world
    exact (Task.isSteady_iff_agree.mp hsteady).mono fun _ _ hsame => ⟨hsame, trivial⟩
  fallback := by
    intro step _ _ attempt
    cases hfallback : runner.suite.fallback with
    | none => exact .none
    | some fallback => exact .some fun world _ => steady.agree_fallback hfallback _ world
  strategy := fun error context _ => Task.isSteady_iff_agree.mp (steady.strategy error context)
  drop := fun world _ => Task.isSteady_iff_agree.mp (steady.drop world)

/-- A steady scenario gives the same records in every run of it, but for their times. -/
theorem run (instance_ : Instance) :
    Task.Agree (fun records records' => records.map Record.untimed = records'.map Record.untimed)
      (runner.run instance_) (runner.run instance_) :=
  (steady.alike instance_).run ⟨rfl, rfl⟩

end Steady

/-! ## Options that do not matter -/

/-- The runner with what other options say of the instances that are selected and of the workers that
share them. -/
def selecting (runner : ScenarioRunner σ ω) (chosen : Options) : ScenarioRunner σ ω :=
  { runner with
    options :=
      { runner.options with
        includeTags := chosen.includeTags, excludeTags := chosen.excludeTags,
        nameFilter := chosen.nameFilter, workers := chosen.workers } }

section Selecting

variable (runner : ScenarioRunner σ ω) (chosen : Options)

theorem runSteps_selecting (instance_ : Instance) (number : Nat) (steps : List (Step × Bool))
    (world : ω) :
    (runner.selecting chosen).runSteps instance_ number steps world =
      runner.runSteps instance_ number steps world := by
  induction steps generalizing world with
  | nil => rfl
  | cons step rest ih =>
      unfold runSteps
      simp only [ih]
      rfl

theorem attempt_selecting (instance_ : Instance) (number : Nat) :
    (runner.selecting chosen).attempt instance_ number = runner.attempt instance_ number := by
  unfold attempt
  simp only [runSteps_selecting]
  rfl

theorem attemptsFrom_selecting (instance_ : Instance) (plan : RetryPlan) (number : Nat) :
    (runner.selecting chosen).attemptsFrom instance_ plan number =
      runner.attemptsFrom instance_ plan number := by
  unfold attemptsFrom
  rw [attempt_selecting]
  refine bind_congr fun startedAt => bind_congr fun ended => bind_congr fun verdict => ?_
  cases verdict with
  | final status error => rfl
  | again error within =>
      have hwithin : number ≤ runner.maxBudget plan := within
      have hlater := attemptsFrom_selecting instance_ plan (number + 1)
      dsimp only
      rw [hlater]
      rfl
termination_by runner.maxBudget plan + 1 - number

/-- An instance is run in the same way whatever else is selected, and by however many workers. -/
theorem run_selecting (instance_ : Instance) :
    (runner.selecting chosen).run instance_ = runner.run instance_ :=
  attemptsFrom_selecting runner chosen instance_ (runner.plan instance_) 1

theorem Steady.selecting {runner : ScenarioRunner σ ω} (steady : runner.Steady) (chosen : Options) :
    (runner.selecting chosen).Steady where
  world := steady.world
  withWorld := steady.withWorld
  alone := steady.alone
  handler := steady.handler
  fallback := steady.fallback
  offered := steady.offered
  strategy := steady.strategy
  drop := steady.drop

end Selecting

end ScenarioRunner

end Acceptance
