import Acceptance.Proofs.Scenario.Attempt

/-!
# The lifecycle of an attempt

What is done in an attempt at a scenario, call by call: its world is created, the hooks before it and
its steps are run up to the first failure, then all hooks after it are called and the world is dropped.
An attempt that is cut off has done so up to the call that it was lost in.

What is awaited cannot crash an attempt: a crash of it is the failure of a hook, of a handler or of the
creation of a world. What is called before there is anything to await can, be it one of these, the offer
to the fallback, the strategy or the drop of the world. Whatever is called or awaited may fail to end.
-/

namespace Acceptance

open Acceptance.Task (Act Loss)

variable {σ ω ρ : Type}

/-! ## Calls of hooks and handlers -/

namespace Task

/-- A handler without a limit is never given up. -/
theorem not_given_up {task : Task (σ × ρ) Event Reply} {own own' : ρ} {acts : List (Act σ Event)} :
    ¬ ((task.withinLimit none).onPrivate own).Ends acts (.finished (.ok none, own')) := by
  intro h
  obtain ⟨inner, ended, _, hinner, heq⟩ := h.of_onPrivate
  cases ended with
  | finished value =>
      cases heq
      obtain ⟨_, _, _, _, _, hdone⟩ := ends_bind_finished.mp hinner
      cases (ends_done.mp hdone).2
  | crashed panic => cases heq
  | hung => cases heq

end Task

namespace Suite

variable {call : HookCall σ ω ρ} {context : HookContext}

/-- What is awaited after a call can only be lost by never ending. -/
def NeverCrashes (call : HookCall σ ω ρ) : Prop :=
  ∀ action context around acts awaited,
    (call action context around).Ends acts (.finished awaited) → awaited.Avoids .crash

theorem neverCrashes_callWithWorld : NeverCrashes (callWithWorld : HookCall σ ω ω) := by
  intro action context world acts awaited h
  obtain ⟨_, _, _, _, _, hdone⟩ := Task.ends_bind_finished.mp h
  cases (Task.ends_done.mp hdone).2
  intro later ending hends
  obtain ⟨_, _, _, _, _, hdone⟩ | ⟨loss, rfl, hlost⟩ := Task.ends_bind_or_lost.mp hends
  · exact Task.avoids_done _ _ _ hdone
  · obtain rfl := Task.loss_of_onPrivate hlost
    nofun

theorem neverCrashes_callAlone : NeverCrashes (callAlone : HookCall σ ω PUnit) := by
  intro action context around acts awaited h
  obtain ⟨_, _, _, _, _, hdone⟩ := Task.ends_bind_finished.mp h
  cases (Task.ends_done.mp hdone).2
  exact avoids_crash_awaitAlone _

/-- A hook is lost in its call, or what is awaited then never ends. The hooks before it have been
called, each with an answer that lets the next one be called. -/
inductive HooksLost (call : HookCall σ ω ρ) (context : HookContext) (goesOn : Option String → Prop) :
    List (Hook (HookAction σ ω)) → ρ → List (Act σ Event) → Loss → Prop
  | calling {hook rest around acts loss}
      (hcall : (call hook.action context around).Ends acts loss.ending) :
      HooksLost call context goesOn (hook :: rest) around (.emit (hookEvent hook context) :: acts) loss
  | awaiting {hook rest around awaited acts later}
      (hcall : (call hook.action context around).Ends acts (.finished awaited))
      (hawait : awaited.Ends later .hung) :
      HooksLost call context goesOn (hook :: rest) around
        (.emit (hookEvent hook context) :: (acts ++ later)) .hung
  | later {hook rest around around' failure acts later loss}
      (hcall : (call hook.action context around).join.Ends acts (.finished (failure, around')))
      (hgoes : goesOn failure) (hrest : HooksLost call context goesOn rest around' later loss) :
      HooksLost call context goesOn (hook :: rest) around
        (.emit (hookEvent hook context) :: (acts ++ later)) loss

variable {hooks : List (Hook (HookAction σ ω))} {around : ρ} {acts : List (Act σ Event)} {loss : Loss}

theorem not_ends_report_loss {event : Event} :
    ¬ (Task.report event : Task σ Event PUnit).Ends acts loss.ending :=
  Task.not_ends_loss fun _ => Task.avoids_report event

/-- The first of some hooks is lost. -/
theorem hooksLost_of_call {goesOn : Option String → Prop} {hook : Hook (HookAction σ ω)}
    (hsafe : NeverCrashes call) (h : (call hook.action context around).join.Ends acts loss.ending) :
    HooksLost call context goesOn (hook :: hooks) around (.emit (hookEvent hook context) :: acts)
      loss := by
  obtain hcalling | ⟨awaited, before, after, rfl, hcall, hawait⟩ := Task.ends_join_loss.mp h
  · exact .calling hcalling
  · cases loss with
    | crashed panic => exact absurd rfl (hsafe _ _ _ _ _ hcall _ _ hawait)
    | hung => exact .awaiting hcall hawait

theorem hooksLost_of_ends (hsafe : NeverCrashes call)
    (h : (runHooks call context hooks around).Ends acts loss.ending) :
    HooksLost call context (· = none) hooks around acts loss := by
  induction hooks generalizing around acts with
  | nil => exact absurd h Task.not_ends_done_loss
  | cons hook rest ih =>
      simp only [runHooks, bind, Task.ends_bind_loss, not_ends_report_loss, false_or, ends_report] at h
      obtain ⟨_, _, later, rfl, rfl, hlost | ⟨⟨failure, around'⟩, first, later, rfl, hcall, hlost⟩⟩ := h
      · exact hooksLost_of_call hsafe hlost
      · cases failure with
        | some message => exact absurd hlost Task.not_ends_done_loss
        | none =>
            rw [List.singleton_append]
            exact .later hcall rfl (ih hlost)

theorem allHooksLost_of_ends (hsafe : NeverCrashes call)
    (h : (runAllHooks call context hooks around).Ends acts loss.ending) :
    HooksLost call context (fun _ => True) hooks around acts loss := by
  induction hooks generalizing around acts with
  | nil => exact absurd h Task.not_ends_done_loss
  | cons hook rest ih =>
      simp only [runAllHooks, bind, pure, Task.ends_bind_loss, not_ends_report_loss, false_or,
        ends_report, Task.not_ends_done_loss, and_false, exists_false, or_false] at h
      obtain ⟨_, _, later, rfl, rfl, hlost | ⟨⟨failure, around'⟩, first, later, rfl, hcall, hlost⟩⟩ := h
      · exact hooksLost_of_call hsafe hlost
      · rw [List.singleton_append]
        exact .later hcall trivial (ih hlost)

end Suite

namespace ScenarioRunner

/-- What runs of a handler on a world: the handler, for no longer than a limit. -/
abbrev bounded (limit : Option Duration) (handler : Task (σ × ω) Event Reply) (world : ω) :
    Task σ Event (Except Panic (Option Reply) × ω) :=
  (handler.withinLimit (limit.map Duration.nanoseconds)).onPrivate world

/-- A handler is run for a step: what is done, the error of the step if it fails, and the world that is
left. -/
inductive HandlerRuns (text : String) (limit : Option Duration) (handler : Task (σ × ω) Event Reply)
    (world : ω) (acts : List (Act σ Event)) : Option StepError → ω → Prop
  | passed {world'} (h : (bounded limit handler world).Ends acts
      (.finished (.ok (some (.ok ⟨⟩)), world'))) : HandlerRuns text limit handler world acts none world'
  | failed {message world'} (h : (bounded limit handler world).Ends acts
      (.finished (.ok (some (.error message)), world'))) :
      HandlerRuns text limit handler world acts (some (.failed text message)) world'
  | crashed {panic world'} (h : (bounded limit handler world).Ends acts
      (.finished (.error panic, world'))) :
      HandlerRuns text limit handler world acts (some (.failed text panic.message)) world'
  | timedOut {after world'} (hlimit : limit = some after)
      (h : (bounded limit handler world).Ends acts (.finished (.ok none, world'))) :
      HandlerRuns text limit handler world acts (some (.timeout text after)) world'

section Execution

variable {text : String} {limit : Option Duration} {handler : Task (σ × ω) Event Reply}
  {world world' : ω} {acts : List (Act σ Event)}

/-- A handler is run for a step just as long as its limit lets it. -/
theorem ends_execute {error : Option StepError} :
    (execute text limit handler world).Ends acts (.finished (error, world')) ↔
      ∃ result, (bounded limit handler world).Ends acts (.finished (result, world')) ∧
        error = stepError? text limit result := by
  simp only [execute, bind, pure, Task.ends_bind_finished, Task.ends_done]
  constructor
  · rintro ⟨⟨result, _⟩, _, _, rfl, hcall, rfl, heq⟩
    cases heq
    rw [List.append_nil]
    exact ⟨result, hcall, rfl⟩
  · rintro ⟨result, hcall, rfl⟩
    exact ⟨(result, world'), acts, [], (List.append_nil _).symm, hcall, rfl, rfl⟩

theorem handlerRuns_iff {error : Option StepError} :
    HandlerRuns text limit handler world acts error world' ↔
      (execute text limit handler world).Ends acts (.finished (error, world')) := by
  rw [ends_execute]
  constructor
  · rintro (h | h | h | ⟨rfl, h⟩)
    all_goals exact ⟨_, h, rfl⟩
  · rintro ⟨panic | _ | message | _, hcall, rfl⟩
    · exact .crashed hcall
    · cases limit with
      | none => exact absurd hcall Task.not_given_up
      | some after => exact .timedOut rfl hcall
    · exact .failed hcall
    · exact .passed hcall

/-- Whatever runs a handler for a text fails with an error about that text. -/
theorem HandlerRuns.step_eq {error : StepError}
    (h : HandlerRuns text limit handler world acts (some error) world') : error.step = text := by
  cases h <;> rfl

theorem hung_of_execute {loss : Loss} (h : (execute text limit handler world).Ends acts loss.ending) :
    loss = .hung ∧ (bounded limit handler world).Ends acts .hung := by
  simp only [execute, bind, pure, Task.ends_bind_loss, Task.not_ends_done_loss, and_false,
    exists_false, or_false] at h
  obtain rfl := Task.loss_of_onPrivate h
  exact ⟨rfl, h⟩

end Execution

variable (runner : ScenarioRunner σ ω) (instance_ : Instance) (number : Nat)

/-! ## Steps -/

/-- A step is handled: its definition is called once, or else there is one offer to the fallback, which
declines it or gives the handler to be awaited instead. -/
inductive Dispatched (step : Step) (world : ω) :
    List (Act σ Event) → Option StepError → ω → Prop
  | defined {found handler acts later error world' world''}
      (hfound : runner.suite.definitions.resolveStep? step = some found)
      (hcall : ((found.definition.handler (stepContext step found.args number)).beside world).Ends acts
        (.finished (handler, world')))
      (hruns : HandlerRuns step.text (found.definition.options.timeout.or runner.options.stepTimeout)
        handler world' later error world'') :
      Dispatched step world (.emit (.handler found.definition.index instance_.key number step.text) ::
        (acts ++ later)) error world''
  | undefined (hnone : runner.suite.definitions.resolveStep? step = none)
      (hfallback : runner.suite.fallback = none) :
      Dispatched step world [] (some (.notFound step.text)) world
  | declined {fallback acts world'} (hnone : runner.suite.definitions.resolveStep? step = none)
      (hfallback : runner.suite.fallback = some fallback)
      (hoffer : ((fallback (stepContext step (Argument.attachments step) number)).beside world).Ends
        acts (.finished (none, world'))) :
      Dispatched step world (.emit (.offer instance_.key number step.text) :: acts)
        (some (.notFound step.text)) world'
  | takenOver {fallback handler acts later error world' world''}
      (hnone : runner.suite.definitions.resolveStep? step = none)
      (hfallback : runner.suite.fallback = some fallback)
      (hoffer : ((fallback (stepContext step (Argument.attachments step) number)).beside world).Ends
        acts (.finished (some handler, world')))
      (hruns : HandlerRuns step.text runner.options.stepTimeout handler world' later error world'') :
      Dispatched step world (.emit (.offer instance_.key number step.text) :: (acts ++ later)) error
        world''

/-- The call of what handles a step is lost, or its offer to the fallback is, or what is awaited then
never ends. -/
inductive DispatchLost (step : Step) (world : ω) : List (Act σ Event) → Loss → Prop
  | calling {found acts loss} (hfound : runner.suite.definitions.resolveStep? step = some found)
      (hcall : ((found.definition.handler (stepContext step found.args number)).beside world).Ends acts
        loss.ending) :
      DispatchLost step world
        (.emit (.handler found.definition.index instance_.key number step.text) :: acts) loss
  | awaiting {found handler acts later world'}
      (hfound : runner.suite.definitions.resolveStep? step = some found)
      (hcall : ((found.definition.handler (stepContext step found.args number)).beside world).Ends acts
        (.finished (handler, world')))
      (hruns : (bounded (found.definition.options.timeout.or runner.options.stepTimeout) handler
        world').Ends later .hung) :
      DispatchLost step world
        (.emit (.handler found.definition.index instance_.key number step.text) :: (acts ++ later)) .hung
  | offer {fallback acts loss} (hnone : runner.suite.definitions.resolveStep? step = none)
      (hfallback : runner.suite.fallback = some fallback)
      (hoffer : ((fallback (stepContext step (Argument.attachments step) number)).beside world).Ends
        acts loss.ending) :
      DispatchLost step world (.emit (.offer instance_.key number step.text) :: acts) loss
  | takenOver {fallback handler acts later world'}
      (hnone : runner.suite.definitions.resolveStep? step = none)
      (hfallback : runner.suite.fallback = some fallback)
      (hoffer : ((fallback (stepContext step (Argument.attachments step) number)).beside world).Ends
        acts (.finished (some handler, world')))
      (hruns : (bounded runner.options.stepTimeout handler world').Ends later .hung) :
      DispatchLost step world (.emit (.offer instance_.key number step.text) :: (acts ++ later)) .hung

/-- A step is run between its hooks: what is done, its failure if it fails, and the world that is left.
The failure is the first that there is: of a hook before the step, which keeps it from being handled, of
what handles it, or of a hook after it. All hooks after it are called in any case. -/
inductive StepLived (step : Step) (world : ω) :
    List (Act σ Event) → Option StepFailure → ω → Prop
  | refused {before after error errors world' world''}
      (hbefore : runner.BeforeStep instance_ number step world before (some error) world')
      (hafter : runner.AfterStep instance_ number step .failed world' after errors world'') :
      StepLived step world (before ++ after) (some ⟨.hook step.text error, false⟩) world''
  | failed {before handling after error errors world' world'' world'''}
      (hbefore : runner.BeforeStep instance_ number step world before none world')
      (hcall : Dispatched runner instance_ number step world' handling (some error) world'')
      (hafter : runner.AfterStep instance_ number step .failed world'' after errors world''') :
      StepLived step world (before ++ (handling ++ after)) (some ⟨error, true⟩) world'''
  | spoiled {before handling after error errors world' world'' world'''}
      (hbefore : runner.BeforeStep instance_ number step world before none world')
      (hcall : Dispatched runner instance_ number step world' handling none world'')
      (hafter : runner.AfterStep instance_ number step .passed world'' after (error :: errors)
        world''') :
      StepLived step world (before ++ (handling ++ after)) (some ⟨.hook step.text error, true⟩) world'''
  | passed {before handling after world' world'' world'''}
      (hbefore : runner.BeforeStep instance_ number step world before none world')
      (hcall : Dispatched runner instance_ number step world' handling none world'')
      (hafter : runner.AfterStep instance_ number step .passed world'' after [] world''') :
      StepLived step world (before ++ (handling ++ after)) none world'''

/-- A hook around a step is lost, or what handles the step is. -/
inductive StepLost (step : Step) (world : ω) : List (Act σ Event) → Loss → Prop
  | before {acts loss}
      (h : Suite.HooksLost Suite.callWithWorld (hookContext instance_ (some step) none number)
        (· = none) (runner.suite.hooksFor .beforeStep (hookContext instance_ (some step) none number))
        world acts loss) :
      StepLost step world acts loss
  | dispatch {before handling loss world'}
      (hbefore : runner.BeforeStep instance_ number step world before none world')
      (h : DispatchLost runner instance_ number step world' handling loss) :
      StepLost step world (before ++ handling) loss
  | refused {before after error loss world'}
      (hbefore : runner.BeforeStep instance_ number step world before (some error) world')
      (h : Suite.HooksLost Suite.callWithWorld
        (hookContext instance_ (some step) (some .failed) number) (fun _ => True)
        (runner.suite.hooksFor .afterStep (hookContext instance_ (some step) (some .failed) number))
        world' after loss) :
      StepLost step world (before ++ after) loss
  | after {before handling after error loss world' world''}
      (hbefore : runner.BeforeStep instance_ number step world before none world')
      (hcall : Dispatched runner instance_ number step world' handling error world'')
      (h : Suite.HooksLost Suite.callWithWorld
        (hookContext instance_ (some step) (some (.ofError error)) number) (fun _ => True)
        (runner.suite.hooksFor .afterStep
          (hookContext instance_ (some step) (some (.ofError error)) number)) world'' after loss) :
      StepLost step world (before ++ (handling ++ after)) loss

/-- Steps are run in order up to the first that fails: what is done, the records of those that were run,
the failure if there is one, and the world that is left. -/
inductive StepsLived : List (Step × Bool) → ω → List (Act σ Event) → List StepRecord →
    Option StepFailure → ω → Prop
  | nil (world : ω) : StepsLived [] world [] [] none world
  | fails {step rest world world' acts failure}
      (hstep : StepLived runner instance_ number step.1 world acts (some failure) world') :
      StepsLived (step :: rest) world acts [.ran step.1 step.2 (some failure.error)] (some failure) world'
  | passes {step rest world world' world'' acts later records failure}
      (hstep : StepLived runner instance_ number step.1 world acts none world')
      (hrest : StepsLived rest world' later records failure world'') :
      StepsLived (step :: rest) world (acts ++ later) (.ran step.1 step.2 none :: records) failure
        world''

/-- A step is lost when those before it have passed. -/
inductive StepsLost : List (Step × Bool) → ω → List (Act σ Event) → Loss → Prop
  | here {step rest world acts loss} (h : StepLost runner instance_ number step.1 world acts loss) :
      StepsLost (step :: rest) world acts loss
  | later {step rest world world' acts later loss}
      (hstep : StepLived runner instance_ number step.1 world acts none world')
      (hrest : StepsLost rest world' later loss) : StepsLost (step :: rest) world (acts ++ later) loss

section Ends

variable {runner instance_ number} {step : Step} {world world' : ω} {acts : List (Act σ Event)}
  {loss : Loss}

theorem dispatched_of_ends {error : Option StepError}
    (h : (runner.dispatch instance_ step number world).Ends acts (.finished (error, world'))) :
    Dispatched runner instance_ number step world acts error world' := by
  unfold dispatch at h
  split at h
  next hnone =>
    unfold runFallback at h
    split at h
    next hfallback =>
      obtain ⟨rfl, heq⟩ := Task.ends_done.mp h
      cases heq
      exact .undefined hnone hfallback
    next fallback hfallback =>
      simp only [bind, Task.ends_bind_finished, Suite.ends_report] at h
      obtain ⟨_, _, _, rfl, rfl, ⟨_ | handler, _⟩, first, later, rfl, hoffer, hlast⟩ := h
      · obtain ⟨rfl, heq⟩ := Task.ends_done.mp hlast
        cases heq
        rw [List.append_nil]
        exact .declined hnone hfallback hoffer
      · rw [List.singleton_append]
        exact .takenOver hnone hfallback hoffer (handlerRuns_iff.mpr hlast)
  next found hfound =>
    simp only [bind, Task.ends_bind_finished, Suite.ends_report] at h
    obtain ⟨_, _, _, rfl, rfl, ⟨handler, _⟩, first, later, rfl, hcall, hlast⟩ := h
    rw [List.singleton_append]
    exact .defined hfound hcall (handlerRuns_iff.mpr hlast)

theorem Dispatched.ends {error : Option StepError}
    (h : Dispatched runner instance_ number step world acts error world') :
    (runner.dispatch instance_ step number world).Ends acts (.finished (error, world')) := by
  cases h with
  | defined hfound hcall hruns =>
      simp only [dispatch, hfound, bind, Task.ends_bind_finished, Suite.ends_report]
      exact ⟨⟨⟩, _, _, rfl, rfl, _, _, _, rfl, hcall, handlerRuns_iff.mp hruns⟩
  | undefined hnone hfallback =>
      simp only [dispatch, runFallback, hnone, hfallback]
      exact Task.ends_done.mpr ⟨rfl, rfl⟩
  | declined hnone hfallback hoffer =>
      simp only [dispatch, runFallback, hnone, hfallback, bind, pure, Task.ends_bind_finished,
        Suite.ends_report]
      exact ⟨⟨⟩, _, _, rfl, rfl, _, _, [], (List.append_nil _).symm, hoffer, Task.ends_done.mpr ⟨rfl, rfl⟩⟩
  | takenOver hnone hfallback hoffer hruns =>
      simp only [dispatch, runFallback, hnone, hfallback, bind, Task.ends_bind_finished,
        Suite.ends_report]
      exact ⟨⟨⟩, _, _, rfl, rfl, _, _, _, rfl, hoffer, handlerRuns_iff.mp hruns⟩

theorem Dispatched.step_eq {error : StepError}
    (h : Dispatched runner instance_ number step world acts (some error) world') :
    error.step = step.text := by
  cases h with
  | defined _ _ hruns => exact hruns.step_eq
  | undefined _ _ => rfl
  | declined _ _ _ => rfl
  | takenOver _ _ _ hruns => exact hruns.step_eq

theorem dispatchLost_of_ends
    (h : (runner.dispatch instance_ step number world).Ends acts loss.ending) :
    DispatchLost runner instance_ number step world acts loss := by
  unfold dispatch at h
  split at h
  next hnone =>
    unfold runFallback at h
    split at h
    next => exact absurd h Task.not_ends_done_loss
    next fallback hfallback =>
      simp only [bind, Task.ends_bind_loss, Suite.not_ends_report_loss, false_or,
        Suite.ends_report] at h
      obtain ⟨_, _, _, rfl, rfl, hlost | ⟨⟨_ | handler, _⟩, first, later, rfl, hoffer, hlost⟩⟩ := h
      · exact .offer hnone hfallback hlost
      · exact absurd hlost Task.not_ends_done_loss
      · obtain ⟨rfl, hruns⟩ := hung_of_execute hlost
        rw [List.singleton_append]
        exact .takenOver hnone hfallback hoffer hruns
  next found hfound =>
    simp only [bind, Task.ends_bind_loss, Suite.not_ends_report_loss, false_or,
      Suite.ends_report] at h
    obtain ⟨_, _, _, rfl, rfl, hlost | ⟨⟨handler, _⟩, first, later, rfl, hcall, hlost⟩⟩ := h
    · exact .calling hfound hlost
    · obtain ⟨rfl, hruns⟩ := hung_of_execute hlost
      rw [List.singleton_append]
      exact .awaiting hfound hcall hruns

/-- Whether a step failed is told alike with and without the flag of its dispatch. -/
theorem ofError_dispatched (error : Option StepError) :
    Status.ofError (error.map fun error => (⟨error, true⟩ : StepFailure)) = .ofError error := by
  cases error <;> rfl

theorem stepLived_of_ends {failure : Option StepFailure}
    (h : (runner.runStep instance_ number step world).Ends acts (.finished (failure, world'))) :
    StepLived runner instance_ number step world acts failure world' := by
  simp only [runStep, bind, pure, Task.ends_bind_finished] at h
  obtain ⟨⟨refused, world₁⟩, before, _, rfl, hbefore, hrest⟩ := h
  have hbefore := Suite.hooksRun_of_ends hbefore
  cases refused with
  | some error =>
      simp only [Task.done_bind, Task.ends_bind_finished, Task.ends_done] at hrest
      obtain ⟨⟨errors, _⟩, after, _, rfl, hafter, rfl, heq⟩ := hrest
      cases heq
      rw [List.append_nil]
      exact .refused hbefore (Suite.allHooksRun_of_ends hafter)
  | none =>
      simp only [Task.done_bind, Task.ends_bind_finished, Task.ends_done] at hrest
      obtain ⟨⟨error, world₂⟩, handling, _, rfl, hcall, ⟨errors, _⟩, after, _, rfl, hafter, rfl, heq⟩ :=
        hrest
      cases heq
      rw [List.append_nil]
      have hcall := dispatched_of_ends hcall
      have hafter := Suite.allHooksRun_of_ends hafter
      rw [ofError_dispatched] at hafter
      rcases error with _ | error
      · rcases errors with _ | ⟨error, errors⟩
        · exact .passed hbefore hcall hafter
        · exact .spoiled hbefore hcall hafter
      · exact .failed hbefore hcall hafter

theorem stepLost_of_ends (h : (runner.runStep instance_ number step world).Ends acts loss.ending) :
    StepLost runner instance_ number step world acts loss := by
  obtain hlost | ⟨⟨refused, world₁⟩, before, _, rfl, hbefore, hrest⟩ := Task.ends_bind_loss.mp h
  · exact .before (Suite.hooksLost_of_ends Suite.neverCrashes_callWithWorld hlost)
  have hbefore := Suite.hooksRun_of_ends hbefore
  cases refused with
  | some error =>
      simp only [bind, pure, Task.done_bind] at hrest
      obtain hlost | ⟨_, _, _, _, _, hlost⟩ := Task.ends_bind_loss.mp hrest
      · exact .refused hbefore (Suite.allHooksLost_of_ends Suite.neverCrashes_callWithWorld hlost)
      · exact absurd hlost Task.not_ends_done_loss
  | none =>
      simp only [bind, pure, Task.done_bind] at hrest
      obtain hlost | ⟨⟨error, world₂⟩, handling, after, rfl, hcall, hrest⟩ :=
        Task.ends_bind_loss.mp hrest
      · exact .dispatch hbefore (dispatchLost_of_ends hlost)
      obtain hlost | ⟨_, _, _, _, _, hlost⟩ := Task.ends_bind_loss.mp hrest
      · rw [ofError_dispatched] at hlost
        exact .after hbefore (dispatched_of_ends hcall)
          (Suite.allHooksLost_of_ends Suite.neverCrashes_callWithWorld hlost)
      · exact absurd hlost Task.not_ends_done_loss

theorem stepsLived_of_ends {steps : List (Step × Bool)} {records : List StepRecord}
    {failure : Option StepFailure}
    (h : (runner.runSteps instance_ number steps world).Ends acts
      (.finished (records, failure, world'))) :
    StepsLived runner instance_ number steps world acts records failure world' := by
  induction steps generalizing world acts records with
  | nil =>
      obtain ⟨rfl, heq⟩ := Task.ends_done.mp h
      cases heq
      exact .nil _
  | cons step rest ih =>
      simp only [runSteps, bind, pure, Task.ends_bind_finished] at h
      obtain ⟨⟨found, world₁⟩, first, _, rfl, hstep, hrest⟩ := h
      have hstep := stepLived_of_ends hstep
      cases found with
      | some failed =>
          obtain ⟨rfl, heq⟩ := Task.ends_done.mp hrest
          cases heq
          rw [List.append_nil]
          exact .fails hstep
      | none =>
          simp only [Task.ends_bind_finished, Task.ends_done] at hrest
          obtain ⟨⟨records, failure, _⟩, later, _, rfl, hlater, rfl, heq⟩ := hrest
          cases heq
          rw [List.append_nil]
          exact .passes hstep (ih hlater)

theorem stepsLost_of_ends {steps : List (Step × Bool)}
    (h : (runner.runSteps instance_ number steps world).Ends acts loss.ending) :
    StepsLost runner instance_ number steps world acts loss := by
  induction steps generalizing world acts with
  | nil => exact absurd h Task.not_ends_done_loss
  | cons step rest ih =>
      simp only [runSteps, bind, pure, Task.ends_bind_loss] at h
      obtain hlost | ⟨⟨found, world₁⟩, first, later, rfl, hstep, hrest⟩ := h
      · exact .here (stepLost_of_ends hlost)
      have hstep := stepLived_of_ends hstep
      cases found with
      | some failed => exact absurd hrest Task.not_ends_done_loss
      | none =>
          simp only [Task.ends_bind_loss, Task.not_ends_done_loss, and_false, exists_false,
            or_false] at hrest
          exact .later hstep (ih hrest)

end Ends

/-! ## Attempts -/

/-- An attempt is made up to the point where its outcome is known: what is done, and what comes out. -/
inductive Opened : List (Act σ Event) → Attempt ω → Prop
  | noWorld {acts message}
      (hworld : runner.suite.newWorld.guarded.Ends acts (.finished (.ok (.error message)))) :
      Opened (.emit (.world instance_.key number) :: acts) ⟨[], some (.world message), none⟩
  | worldCrashed {acts panic}
      (hworld : runner.suite.newWorld.guarded.Ends acts (.finished (.error panic))) :
      Opened (.emit (.world instance_.key number) :: acts) ⟨[], some (.world panic.message), none⟩
  | refused {acts before error world world'}
      (hworld : runner.suite.newWorld.guarded.Ends acts (.finished (.ok (.ok world))))
      (hbefore : runner.BeforeScenario instance_ number world before (some error) world') :
      Opened (.emit (.world instance_.key number) :: (acts ++ before))
        ⟨[], some (.beforeHook error), some world'⟩
  | stepped {acts before steps records failure world world' world''}
      (hworld : runner.suite.newWorld.guarded.Ends acts (.finished (.ok (.ok world))))
      (hbefore : runner.BeforeScenario instance_ number world before none world')
      (hsteps : StepsLived runner instance_ number instance_.allSteps world' steps records failure
        world'') :
      Opened (.emit (.world instance_.key number) :: (acts ++ (before ++ steps)))
        ⟨records, failure.map .step, some world''⟩

/-- The call that creates a world is lost, or what it gives never ends; or a hook before the scenario is
lost, or a step. -/
inductive OpeningLost : List (Act σ Event) → Loss → Prop
  | calling {acts loss} (hcall : runner.suite.newWorld.Ends acts loss.ending) :
      OpeningLost (.emit (.world instance_.key number) :: acts) loss
  | awaiting {creation acts later} (hcall : runner.suite.newWorld.Ends acts (.finished creation))
      (hworld : creation.Ends later .hung) :
      OpeningLost (.emit (.world instance_.key number) :: (acts ++ later)) .hung
  | before {acts before loss world}
      (hworld : runner.suite.newWorld.guarded.Ends acts (.finished (.ok (.ok world))))
      (h : Suite.HooksLost Suite.callWithWorld (hookContext instance_ none none number) (· = none)
        (runner.suite.hooksFor .before (hookContext instance_ none none number)) world before loss) :
      OpeningLost (.emit (.world instance_.key number) :: (acts ++ before)) loss
  | steps {acts before steps loss world world'}
      (hworld : runner.suite.newWorld.guarded.Ends acts (.finished (.ok (.ok world))))
      (hbefore : runner.BeforeScenario instance_ number world before none world')
      (h : StepsLost runner instance_ number instance_.allSteps world' steps loss) :
      OpeningLost (.emit (.world instance_.key number) :: (acts ++ (before ++ steps))) loss

/-- What the strategy is told about a failed step. -/
def consultation (failure : StepFailure) : RetryContext where
  key := instance_.key
  step := failure.error.step
  attempt := number
  retries := ⟨number - 1, runner.budget (runner.plan instance_) failure - (number - 1)⟩

/-- What is done to decide what follows an attempt: nothing, or the strategy is asked about a step that
failed. -/
inductive Decided : Option AttemptFailure → List (Act σ Event) → Prop
  | outright (failure : Option AttemptFailure) : Decided failure []
  | asked {failure : StepFailure} {answer : Bool} {acts : List (Act σ Event)}
      (hasked : (runner.strategy failure.error (runner.consultation instance_ number failure)).Ends acts
        (.finished answer)) :
      Decided (some (.step failure)) (.emit (.consult instance_.key number) :: acts)

/-- What is reported about why an attempt failed. -/
inductive Reported : Option AttemptFailure → Option ScenarioError → Prop
  | passed : Reported none none
  | world (message : String) : Reported (some (.world message)) (some (.world message))
  | beforeHook (error : HookError) : Reported (some (.beforeHook error)) (some (.beforeHook error))
  | step (failure : StepFailure) : Reported (some (.step failure)) (some (.step failure.error))
  | exhausted (failure : StepFailure) :
      Reported (some (.step failure)) (some (.retryExhausted number (.step failure.error)))

/-- All hooks after an attempt are called with the status that was decided: on its world, which is
dropped then, or without one. -/
inductive Closed (status : Status) : List (Act σ Event) → List HookError → Option ω → Prop
  | onWorld {closing dropping errors world world'}
      (hhooks : Suite.AllHooksRun Suite.callWithWorld (hookContext instance_ none (some status) number)
        (runner.suite.hooksFor .after (hookContext instance_ none (some status) number)) world closing
        errors world')
      (hdrop : (runner.suite.dropWorld world').Ends dropping (.finished ⟨⟩)) :
      Closed status (closing ++ dropping) errors (some world)
  | alone {closing errors}
      (hhooks : Suite.AllHooksRun Suite.callAlone (hookContext instance_ none (some status) number)
        (runner.suite.hooksFor .after (hookContext instance_ none (some status) number)) ⟨⟩ closing
        errors ⟨⟩) :
      Closed status closing errors none

/-- A hook after an attempt is lost, or the drop of its world. -/
inductive ClosingLost (status : Status) : List (Act σ Event) → Loss → Option ω → Prop
  | onWorld {closing loss world}
      (h : Suite.HooksLost Suite.callWithWorld (hookContext instance_ none (some status) number)
        (fun _ => True) (runner.suite.hooksFor .after (hookContext instance_ none (some status) number))
        world closing loss) :
      ClosingLost status closing loss (some world)
  | drop {closing dropping errors loss world world'}
      (hhooks : Suite.AllHooksRun Suite.callWithWorld (hookContext instance_ none (some status) number)
        (runner.suite.hooksFor .after (hookContext instance_ none (some status) number)) world closing
        errors world')
      (hdrop : (runner.suite.dropWorld world').Ends dropping loss.ending) :
      ClosingLost status (closing ++ dropping) loss (some world)
  | alone {closing loss}
      (h : Suite.HooksLost Suite.callAlone (hookContext instance_ none (some status) number)
        (fun _ => True) (runner.suite.hooksFor .after (hookContext instance_ none (some status) number))
        ⟨⟩ closing loss) :
      ClosingLost status closing loss none

/-- A whole attempt, with its record. After its record is made nothing is reported until the next
attempt. -/
inductive Lived : List (Act σ Event) → Record → Prop
  | intro (startedAt finishedAt : Nat) {opening deciding closing waiting : List (Act σ Event)}
      {ended : Attempt ω} {error : Option ScenarioError} {errors : List HookError}
      (hopened : Opened runner instance_ number opening ended)
      (hdecided : Decided runner instance_ number ended.failure deciding)
      (hclosed : Closed runner instance_ number (.ofError ended.failure) closing errors ended.world)
      (hreported : Reported number ended.failure error) (hwaiting : Task.events waiting = []) :
      Lived (.clock startedAt :: (opening ++ (deciding ++ (closing ++ (.clock finishedAt :: waiting)))))
        (.ofAttempt instance_ number ended.steps (.ofError ended.failure) error errors startedAt
          finishedAt)

/-- An attempt that is cut off: on its way to its outcome, when the strategy is asked about it, or when
it is closed. -/
inductive Lost : List (Act σ Event) → Loss → Prop
  | opening {startedAt : Nat} {opening : List (Act σ Event)} {loss : Loss}
      (h : OpeningLost runner instance_ number opening loss) : Lost (.clock startedAt :: opening) loss
  | deciding {startedAt : Nat} {opening asking : List (Act σ Event)} {ended : Attempt ω}
      {failure : StepFailure} {loss : Loss} (hopened : Opened runner instance_ number opening ended)
      (hfailure : ended.failure = some (.step failure))
      (h : (runner.strategy failure.error (runner.consultation instance_ number failure)).Ends asking
        loss.ending) :
      Lost (.clock startedAt :: (opening ++ (.emit (.consult instance_.key number) :: asking))) loss
  | closing {startedAt : Nat} {opening deciding closing : List (Act σ Event)} {ended : Attempt ω}
      {loss : Loss} (hopened : Opened runner instance_ number opening ended)
      (hdecided : Decided runner instance_ number ended.failure deciding)
      (h : ClosingLost runner instance_ number (.ofError ended.failure) closing loss ended.world) :
      Lost (.clock startedAt :: (opening ++ (deciding ++ closing))) loss

section Ends

variable {runner instance_ number} {acts : List (Act σ Event)} {loss : Loss}

theorem opened_of_ends {ended : Attempt ω}
    (h : (runner.attempt instance_ number).Ends acts (.finished ended)) :
    Opened runner instance_ number acts ended := by
  simp only [attempt, bind, pure, Task.ends_bind_finished, Suite.ends_report] at h
  obtain ⟨_, _, _, rfl, rfl, panic | message | world, acts, later, rfl, hworld, hrest⟩ := h
  · rw [List.singleton_append]
    obtain ⟨rfl, heq⟩ := Task.ends_done.mp hrest
    cases heq
    rw [List.append_nil]
    exact .worldCrashed hworld
  · rw [List.singleton_append]
    obtain ⟨rfl, heq⟩ := Task.ends_done.mp hrest
    cases heq
    rw [List.append_nil]
    exact .noWorld hworld
  · rw [List.singleton_append]
    simp only [Task.ends_bind_finished] at hrest
    obtain ⟨⟨refused, world₁⟩, before, _, rfl, hbefore, hrest⟩ := hrest
    have hbefore := Suite.hooksRun_of_ends hbefore
    cases refused with
    | some error =>
        obtain ⟨rfl, heq⟩ := Task.ends_done.mp hrest
        cases heq
        rw [List.append_nil]
        exact .refused hworld hbefore
    | none =>
        simp only [Task.ends_bind_finished, Task.ends_done] at hrest
        obtain ⟨⟨records, failure, world₂⟩, steps, _, rfl, hsteps, rfl, heq⟩ := hrest
        cases heq
        rw [List.append_nil]
        exact .stepped hworld hbefore (stepsLived_of_ends hsteps)

theorem openingLost_of_ends (h : (runner.attempt instance_ number).Ends acts loss.ending) :
    OpeningLost runner instance_ number acts loss := by
  simp only [attempt, bind, pure, Task.ends_bind_loss, Suite.not_ends_report_loss, false_or,
    Suite.ends_report] at h
  obtain ⟨_, _, _, rfl, rfl, hlost | ⟨created, acts, later, rfl, hworld, hrest⟩⟩ := h
  · rw [List.singleton_append]
    obtain hcalling | ⟨rfl, creation, before, after, rfl, hcall, hworld⟩ :=
      Task.ends_guarded_loss.mp hlost
    · exact .calling hcalling
    · exact .awaiting hcall hworld
  rw [List.singleton_append]
  rcases created with panic | message | world
  · exact absurd hrest Task.not_ends_done_loss
  · exact absurd hrest Task.not_ends_done_loss
  · simp only [Task.ends_bind_loss] at hrest
    obtain hlost | ⟨⟨refused, world₁⟩, before, _, rfl, hbefore, hrest⟩ := hrest
    · exact .before hworld (Suite.hooksLost_of_ends Suite.neverCrashes_callWithWorld hlost)
    have hbefore := Suite.hooksRun_of_ends hbefore
    cases refused with
    | some error => exact absurd hrest Task.not_ends_done_loss
    | none =>
        simp only [Task.ends_bind_loss, Task.not_ends_done_loss, and_false, exists_false,
          or_false] at hrest
        exact .steps hworld hbefore (stepsLost_of_ends hrest)

theorem ends_now {now : Nat} :
    (Task.now : Task σ Event Nat).Ends acts (.finished now) ↔ acts = [.clock now] := by
  simp [Task.now]

/-- The record of an attempt is made when all hooks after it have been called and its world has been
dropped. -/
theorem closed_of_finish {startedAt : Nat} {ended : Attempt ω} {status : Status}
    {error : Option ScenarioError} {record : Record}
    (h : (runner.finish instance_ number startedAt ended status error).Ends acts (.finished record)) :
    ∃ closing errors finishedAt, acts = closing ++ [.clock finishedAt] ∧
      Closed runner instance_ number status closing errors ended.world ∧
      record = .ofAttempt instance_ number ended.steps status error errors startedAt finishedAt := by
  obtain ⟨steps, failure, world⟩ := ended
  cases world with
  | some world =>
      simp only [finish, bind, pure, Task.done_bind, Task.ends_bind_finished,
        Task.ends_done, ends_now] at h
      obtain ⟨⟨errors, world'⟩, closing, _, rfl, hhooks, _, dropping, _, rfl, hdrop, finishedAt, _, _,
        rfl, rfl, rfl, heq⟩ := h
      cases heq
      rw [← List.append_assoc]
      exact ⟨closing ++ dropping, errors, finishedAt, rfl,
        .onWorld (Suite.allHooksRun_of_ends hhooks) hdrop, rfl⟩
  | none =>
      simp only [finish, bind, pure, Task.done_bind, Task.ends_bind_finished,
        Task.ends_done, ends_now] at h
      obtain ⟨⟨errors, _⟩, closing, _, rfl, hhooks, finishedAt, _, _, rfl, rfl, rfl, heq⟩ := h
      cases heq
      exact ⟨closing, errors, finishedAt, rfl, .alone (Suite.allHooksRun_of_ends hhooks), rfl⟩

theorem closingLost_of_finish {startedAt : Nat} {ended : Attempt ω} {status : Status}
    {error : Option ScenarioError}
    (h : (runner.finish instance_ number startedAt ended status error).Ends acts loss.ending) :
    ClosingLost runner instance_ number status acts loss ended.world := by
  have hnow (now : List (Act σ Event)) : ¬ (Task.now : Task σ Event Nat).Ends now loss.ending :=
    Task.not_ends_loss fun _ => Task.avoids_now
  obtain ⟨steps, failure, world⟩ := ended
  cases world with
  | some world =>
      simp only [finish, bind, pure, Task.done_bind, Task.ends_bind_loss,
        Task.not_ends_done_loss, hnow, and_false, exists_false, or_false] at h
      obtain hlost | ⟨⟨errors, world'⟩, closing, dropping, rfl, hhooks, hdrop⟩ := h
      · exact .onWorld (Suite.allHooksLost_of_ends Suite.neverCrashes_callWithWorld hlost)
      · exact .drop (Suite.allHooksRun_of_ends hhooks) hdrop
  | none =>
      simp only [finish, bind, pure, Task.done_bind, Task.ends_bind_loss,
        Task.not_ends_done_loss, hnow, and_false, exists_false, or_false] at h
      exact .alone (Suite.allHooksLost_of_ends Suite.neverCrashes_callAlone h)

end Ends

end ScenarioRunner

end Acceptance
