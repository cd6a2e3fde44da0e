import Acceptance.Proofs.Priority
import Acceptance.Proofs.Scenario.Trace
import Acceptance.Proofs.Task.Lockstep

/-!
# Hooks after attempts

Hooks after an attempt are called when its status is known, but while others still follow. What they
answer is listed in its record and goes nowhere else: two runs whose hooks after attempts only answer
differently are the same run up to these lists. The one answer that is not listed is a crash before there
is anything to await: it ends the run, and all records are lost with it.
-/

namespace Acceptance

open Acceptance.Task (Act Ending Follows Lockstep NoEscape)

variable {σ ω ρ τ : Type} {escapes : Panic → Prop}

/-- Two calls that do the same, and give to be awaited what does the same up to its answer. Either of them
may crash with what escapes before there is anything to await. -/
def Call.SameButAnswer (escapes : Panic → Prop) (call call' : Call τ) : Prop :=
  Lockstep escapes (Ending.Agree (Lockstep NoEscape Ending.HangAlike)) call call'

/-- Two hooks that are registered alike. They are the same unless they are called after attempts; then
they do the same, but either of them may fail where the other one succeeds. -/
structure Hook.SameButAnswer (escapes : Panic → Prop) (hook hook' : Hook (HookAction σ ω)) : Prop where
  index : hook.index = hook'.index
  phase : hook.phase = hook'.phase
  tags : hook.tags = hook'.tags
  order : hook.order = hook'.order
  action : hook.phase ≠ .after → hook.action = hook'.action
  withWorld : ∀ context,
    Call.SameButAnswer escapes (hook.action.withWorld context) (hook'.action.withWorld context)
  alone : ∀ context,
    Call.SameButAnswer escapes (hook.action.alone context) (hook'.action.alone context)

/-- Hooks that differ only in whether those after attempts succeed or fail. Some crashes may escape, which
are those of a hook that fails before there is anything to await. -/
def Hooks.SameButAnswers (escapes : Panic → Prop) (hooks hooks' : Hooks (HookAction σ ω)) : Prop :=
  List.Forall₂ (Hook.SameButAnswer escapes) hooks.entries hooks'.entries

/-- Two records that may differ in the hooks that failed after the attempt, and in nothing else. -/
def Record.SameButAfterHooks (record record' : Record) : Prop :=
  record' = { record with afterHookErrors := record'.afterHookErrors }

namespace ScenarioRunner

/-- The runner with other hooks. -/
def withHooks (runner : ScenarioRunner σ ω) (hooks : Hooks (HookAction σ ω)) : ScenarioRunner σ ω :=
  { runner with suite := { runner.suite with hooks } }

/-- Before the record of an attempt is made all hooks after it are called, in the order in which they are
listed, and the record has the failures of exactly these hooks. -/
def ListsFailures (runner : ScenarioRunner σ ω) (instance_ : Instance) (number : Nat)
    (life : Life σ) : Prop :=
  ∃ startedAt opening deciding closing finishedAt waiting ended,
    life.acts =
      .clock startedAt :: (opening ++ (deciding ++ (closing ++ (.clock finishedAt :: waiting)))) ∧
    Opened runner instance_ number opening ended ∧
    Closed runner instance_ number life.record.status closing life.record.afterHookErrors ended.world

/-- The records of a run are those of its attempts, and each of them has the failures of the hooks after
its own attempt. -/
def AllListFailures (runner : ScenarioRunner σ ω) (instance_ : Instance) (acts : List (Act σ Event))
    (records : List Record) : Prop :=
  ∃ lives : List (Life σ), acts = lives.flatMap Life.acts ∧ records = lives.map Life.record ∧
    ∀ k life, lives[k]? = some life → ListsFailures runner instance_ (k + 1) life

end ScenarioRunner

/-! ## Hooks -/

theorem Hook.SameButAnswer.appliesTo_eq {hook hook' : Hook (HookAction σ ω)}
    (h : hook.SameButAnswer escapes hook') (active : List String) :
    hook.appliesTo active = hook'.appliesTo active := by
  rw [appliesTo, appliesTo, h.tags]

theorem Hook.SameButAnswer.eq {hook hook' : Hook (HookAction σ ω)} (h : hook.SameButAnswer escapes hook')
    (hphase : hook.phase ≠ .after) : hook = hook' := by
  obtain ⟨index, phase, action, tags, order⟩ := hook
  obtain ⟨hindex, rfl, htags, horder, haction, _, _⟩ := h
  cases hindex
  cases htags
  cases horder
  cases haction hphase
  rfl

namespace Suite

section HooksFor

variable {suite suite' : Suite σ ω} (h : suite.hooks.SameButAnswers escapes suite'.hooks)

include h

/-- Hooks that apply in a context are listed in the same places. -/
theorem forall₂_hooksFor (phase : Phase) (context : HookContext) :
    List.Forall₂ (Hook.SameButAnswer escapes) (suite.hooksFor phase context)
      (suite'.hooksFor phase context) := by
  refine forall₂_byPriority (fun hook hook' hsame => hsame.order) (List.rel_filter ?_ h)
  intro hook hook' hsame
  dsimp only
  rw [hsame.phase, hsame.appliesTo_eq]

/-- The hooks of all other phases are the same. -/
theorem hooksFor_eq {phase : Phase} (hphase : phase ≠ .after) (context : HookContext) :
    suite'.hooksFor phase context = suite.hooksFor phase context := by
  have hof (hook) (hmem : hook ∈ suite.hooksFor phase context) := phase_of_mem_hooksFor hmem
  have hpairs := (List.forall₂_and_left _ _).mpr ⟨hof, forall₂_hooksFor h phase context⟩
  refine (List.forall₂_eq_eq_eq ▸ hpairs.imp ?_).symm
  rintro hook hook' ⟨rfl, hsame⟩
  exact hsame.eq hphase

end HooksFor

variable {call : HookCall σ ω ρ} {context : HookContext}

/-- Hooks that do the same leave the same surroundings, whatever they answer. -/
def CalledInLockstep (escapes : Panic → Prop) (call : HookCall σ ω ρ) (context : HookContext) : Prop :=
  ∀ ⦃hook hook' : Hook (HookAction σ ω)⦄, hook.SameButAnswer escapes hook' → ∀ around,
    Lockstep escapes (Ending.Agree fun result result' => result.2 = result'.2)
      (call hook.action context around).join (call hook'.action context around).join

theorem calledInLockstep_withWorld :
    CalledInLockstep escapes (callWithWorld : HookCall σ ω ω) context := by
  intro hook hook' hsame world
  refine Lockstep.join (((hsame.withWorld context).beside world).bind ?_)
  rintro ⟨called, world⟩ ⟨called', _⟩ ⟨hcalled, rfl⟩
  exact .done ((Lockstep.onPrivate hcalled world).bind fun _ _ hworld => .done hworld)

theorem calledInLockstep_alone :
    CalledInLockstep escapes (callAlone : HookCall σ ω PUnit) context := by
  intro hook hook' hsame around
  refine Lockstep.join (Lockstep.bind (hsame.alone context) fun called called' hcalled => ?_)
  exact .done ((Lockstep.caught hcalled).bind fun _ _ _ => .done rfl)

theorem runAllHooks_lockstep (hcall : CalledInLockstep escapes call context)
    {hooks hooks' : List (Hook (HookAction σ ω))}
    (h : List.Forall₂ (Hook.SameButAnswer escapes) hooks hooks') (around : ρ) :
    Lockstep escapes (Ending.Agree fun result result' => result.2 = result'.2)
      (runAllHooks call context hooks around) (runAllHooks call context hooks' around) := by
  induction h generalizing around with
  | nil => exact .done rfl
  | @cons hook hook' rest rest' hsame _ ih =>
      have hevent : hookEvent hook' context = hookEvent hook context := by
        rw [hookEvent, hookEvent, hsame.index, hsame.phase]
      unfold runAllHooks
      rw [hevent]
      refine .emit _ ((hcall hsame around).bind ?_)
      rintro ⟨failure, around⟩ ⟨failure', _⟩ rfl
      refine (ih around).bind ?_
      rintro ⟨errors, around⟩ ⟨errors', _⟩ rfl
      exact .done rfl

end Suite

namespace ScenarioRunner

variable {runner : ScenarioRunner σ ω} {instance_ : Instance} {hooks : Hooks (HookAction σ ω)}
  (h : runner.suite.hooks.SameButAnswers escapes hooks)

/-! ## Attempts -/

section Attempts

include h

theorem hooksFor_withHooks {phase : Phase} (hphase : phase ≠ .after) (context : HookContext) :
    (runner.withHooks hooks).suite.hooksFor phase context = runner.suite.hooksFor phase context :=
  Suite.hooksFor_eq h hphase context

theorem runStep_withHooks (number : Nat) (step : Step) (world : ω) :
    (runner.withHooks hooks).runStep instance_ number step world =
      runner.runStep instance_ number step world := by
  unfold runStep
  simp only [hooksFor_withHooks h (show Phase.beforeStep ≠ .after from nofun),
    hooksFor_withHooks h (show Phase.afterStep ≠ .after from nofun)]
  rfl

theorem runSteps_withHooks (number : Nat) (steps : List (Step × Bool)) (world : ω) :
    (runner.withHooks hooks).runSteps instance_ number steps world =
      runner.runSteps instance_ number steps world := by
  induction steps generalizing world with
  | nil => rfl
  | cons step rest ih =>
      unfold runSteps
      simp only [runStep_withHooks h, ih]

/-- Nothing is called after an attempt until its outcome is known. -/
theorem attempt_withHooks (number : Nat) :
    (runner.withHooks hooks).attempt instance_ number = runner.attempt instance_ number := by
  unfold attempt
  simp only [hooksFor_withHooks h (show Phase.before ≠ .after from nofun), runSteps_withHooks h]
  rfl

/-- The hooks after an attempt are called whatever they answer, and the record is made of all that was
known before. -/
theorem finish_lockstep (number startedAt : Nat) (ended : Attempt ω) (status : Status)
    (error : Option ScenarioError) :
    Lockstep escapes (Ending.Agree Record.SameButAfterHooks)
      (runner.finish instance_ number startedAt ended status error)
      ((runner.withHooks hooks).finish instance_ number startedAt ended status error) := by
  have hlist : List.Forall₂ (Hook.SameButAnswer escapes) _ ((runner.withHooks hooks).suite.hooksFor .after
      (hookContext instance_ none (some status) number)) := Suite.forall₂_hooksFor h .after _
  unfold finish
  obtain ⟨steps, failure, _ | world⟩ := ended
  · refine (Suite.runAllHooks_lockstep Suite.calledInLockstep_alone hlist ⟨⟩).bind ?_
    exact fun _ _ _ => .bind_self Task.now fun finishedAt => .done rfl
  · refine (Suite.runAllHooks_lockstep Suite.calledInLockstep_withWorld hlist world).bind ?_
    rintro ⟨errors, world⟩ ⟨errors', _⟩ rfl
    refine .bind_self (runner.suite.dropWorld world) fun _ => ?_
    exact .bind_self Task.now fun finishedAt => .done rfl

/-- Attempts from some number on take the same course. The next one follows whatever the hooks after
this one answer, because that has been decided before they are called. -/
theorem attemptsFrom_lockstep (plan : RetryPlan) (number : Nat) :
    Lockstep escapes (Ending.Agree (List.Forall₂ Record.SameButAfterHooks))
      (runner.attemptsFrom instance_ plan number)
      ((runner.withHooks hooks).attemptsFrom instance_ plan number) := by
  unfold attemptsFrom
  rw [attempt_withHooks h]
  refine .bind_self Task.now fun startedAt => .bind_self _ fun ended =>
    .bind_self (runner.decide instance_ plan number ended.failure) fun verdict => ?_
  cases verdict with
  | final status error =>
      refine (finish_lockstep h number startedAt ended status error).bind ?_
      exact fun record record' hrecord => .done (.cons hrecord .nil)
  | again error within =>
      have hwithin : number ≤ runner.maxBudget plan := within
      refine (finish_lockstep h number startedAt ended .failed _).bind fun record record' hrecord => ?_
      refine .bind_self (Task.wait _) fun _ => (attemptsFrom_lockstep plan (number + 1)).bind ?_
      exact fun records records' hrecords => .done (.cons hrecord hrecords)
termination_by runner.maxBudget plan + 1 - number

end Attempts

/-! ## Runs -/

theorem listsFailures_of_lived {number : Nat} {acts : List (Act σ Event)} {record : Record}
    (h : Lived runner instance_ number acts record) :
    ListsFailures runner instance_ number ⟨acts, record⟩ := by
  obtain ⟨startedAt, finishedAt, hopened, hdecided, hclosed, hreported, hwaiting⟩ := h
  exact ⟨_, _, _, _, _, _, _, rfl, hopened, hclosed⟩

theorem allListFailures_of_ends {acts : List (Act σ Event)} {records : List Record}
    (h : (runner.run instance_).Ends acts (.finished records)) :
    AllListFailures runner instance_ acts records := by
  obtain ⟨lives, hacts, hrecords, hlives⟩ := lives_of_finished h
  refine ⟨lives, hacts, hrecords, fun k life hlife => ?_⟩
  rw [Nat.add_comm]
  exact listsFailures_of_lived (hlives.lived k life hlife)

/-- What the hooks after attempts answer has no influence on the outcome of a run, unless one of them
crashes before there is anything to await. Whatever else goes on, two runs whose hooks only answer
differently do the same and end in the same way, with as many records, which differ in nothing but the
failures of the hooks. In either run these are in each record just the failures of the hooks after its
attempt, in the order in which the hooks are listed. A crash that escapes cuts off the run that it happens
in, and no record is left of that. -/
theorem afterHooks_only_listed (runner : ScenarioRunner σ ω) {hooks : Hooks (HookAction σ ω)}
    (h : runner.suite.hooks.SameButAnswers escapes hooks) (instance_ : Instance) :
    (∀ acts ending, (runner.run instance_).Ends acts ending →
      Follows escapes (Ending.Agree (List.Forall₂ Record.SameButAfterHooks)) acts ending
        ((runner.withHooks hooks).run instance_)) ∧
    (∀ acts ending, ((runner.withHooks hooks).run instance_).Ends acts ending →
      Follows escapes
        (fun ending' ending => ending.Agree (List.Forall₂ Record.SameButAfterHooks) ending') acts ending
        (runner.run instance_)) ∧
    (∀ time state,
      let run := (runner.run instance_).run time state
      let run' := ((runner.withHooks hooks).run instance_).run time state
      (run'.events = run.events ∧ run'.state = run.state ∧ run'.time = run.time ∧
        run.ending.Agree (List.Forall₂ Record.SameButAfterHooks) run'.ending) ∨
      ∃ panic, escapes panic ∧ (run.ending = .crashed panic ∨ run'.ending = .crashed panic)) ∧
    (∀ acts records, (runner.run instance_).Ends acts (.finished records) →
      AllListFailures runner instance_ acts records) ∧
    ∀ acts records, ((runner.withHooks hooks).run instance_).Ends acts (.finished records) →
      AllListFailures (runner.withHooks hooks) instance_ acts records := by
  have hlockstep : Lockstep escapes (Ending.Agree (List.Forall₂ Record.SameButAfterHooks))
      (runner.run instance_) ((runner.withHooks hooks).run instance_) :=
    attemptsFrom_lockstep h (runner.plan instance_) 1
  refine ⟨fun acts ending hends => hlockstep.follows hends,
    fun acts ending hends => hlockstep.symm.follows hends, hlockstep.run, ?_, ?_⟩
  · exact fun acts records hends => allListFailures_of_ends hends
  · exact fun acts records hends => allListFailures_of_ends hends

/-! ## Two hooks after each attempt -/

/-- A hook that does nothing but end, in its call or in what is awaited then. -/
def answering (ending : HookContext → Ending (Ending Reply)) : HookAction PUnit PUnit where
  withWorld context := (ending context).task.bind fun awaited => .done awaited.task
  alone context := (ending context).task.bind fun awaited => .done awaited.task

/-- Two hooks after each attempt that do nothing but end. The one registered last is called first. -/
def closers (first second : HookContext → Ending (Ending Reply)) : Hooks (HookAction PUnit PUnit) :=
  (Hooks.register {} .after (answering second) [] 1).register .after (answering first) [] 0

/-- Two ways to end of hooks that differ only in their answers. -/
inductive AnswersAlike (escapes : Panic → Prop) : Ending (Ending Reply) → Ending (Ending Reply) → Prop
  | awaited {answer answer' : Ending Reply} (h : answer.HangAlike answer') :
      AnswersAlike escapes (.finished answer) (.finished answer')
  | crashes (ending : Ending (Ending Reply)) {panic : Panic} (hpanic : escapes panic) :
      AnswersAlike escapes ending (.crashed panic)

theorem AnswersAlike.sameButAnswer {ending ending' : Ending (Ending Reply)}
    (h : AnswersAlike escapes ending ending') :
    Call.SameButAnswer escapes (ending.task.bind fun awaited => .done awaited.task : Call τ)
      (ending'.task.bind fun awaited => .done awaited.task) := by
  cases h with
  | awaited h => exact .done (.ended h)
  | crashes _ hpanic => exact .cutRight hpanic _

theorem sameButAnswers_closers {first second first' second' : HookContext → Ending (Ending Reply)}
    (hfirst : ∀ context, AnswersAlike escapes (first context) (first' context))
    (hsecond : ∀ context, AnswersAlike escapes (second context) (second' context)) :
    (closers first second).SameButAnswers escapes (closers first' second') :=
  .cons ⟨rfl, rfl, rfl, rfl, absurd rfl, fun context => (hsecond context).sameButAnswer,
      fun context => (hsecond context).sameButAnswer⟩
    (.cons ⟨rfl, rfl, rfl, rfl, absurd rfl, fun context => (hfirst context).sameButAnswer,
      fun context => (hfirst context).sameButAnswer⟩ .nil)

/-- Hooks after attempts that succeed. -/
def content : Hooks (HookAction PUnit PUnit) :=
  closers (fun _ => .finished (.finished (.ok ⟨⟩))) fun _ => .finished (.finished (.ok ⟨⟩))

/-- Hooks after attempts of which the first fails and the second one crashes after the last attempt. -/
def cross : Hooks (HookAction PUnit PUnit) :=
  closers (fun _ => .finished (.finished (.error "ajar"))) fun context =>
    .finished (if context.attempt = 2 then .crashed (.text "dusty") else .finished (.ok ⟨⟩))

/-- Hooks after attempts of which the second one crashes before there is anything to await. -/
def startled : Hooks (HookAction PUnit PUnit) :=
  closers (fun _ => .finished (.finished (.ok ⟨⟩))) fun _ => .crashed (.text "boom")

theorem afterHooks_only_listed_cross :
    content.SameButAnswers NoEscape cross ∧ ∃ records records',
      (((stubborn.withHooks content).run oneStep).run 0 ⟨⟩).ending = .finished records ∧
      (((stubborn.withHooks cross).run oneStep).run 0 ⟨⟩).ending = .finished records' ∧
      List.Forall₂ Record.SameButAfterHooks records records' ∧
      (∃ acts, ((stubborn.withHooks cross).run oneStep).Ends acts (.finished records') ∧
        AllListFailures (stubborn.withHooks cross) oneStep acts records') ∧
      records.map Record.afterHookErrors = [[], []] ∧
      records'.map Record.afterHookErrors =
        [[⟨.after, "ajar"⟩], [⟨.after, "ajar"⟩, ⟨.after, "dusty"⟩]] := by
  have hsame : content.SameButAnswers NoEscape cross := by
    refine sameButAnswers_closers (fun _ => .awaited (by simp [Ending.HangAlike])) fun context => ?_
    refine .awaited ?_
    split <;> simp [Ending.HangAlike]
  obtain ⟨records, hrecords, hcontent⟩ : ∃ records,
      (((stubborn.withHooks content).run oneStep).run 0 ⟨⟩).ending = .finished records ∧
        records.map Record.afterHookErrors = [[], []] := ⟨_, by cbv, by cbv⟩
  obtain ⟨records', hrecords', hcross⟩ : ∃ records,
      (((stubborn.withHooks cross).run oneStep).run 0 ⟨⟩).ending = .finished records ∧
        records.map Record.afterHookErrors =
          [[⟨.after, "ajar"⟩], [⟨.after, "ajar"⟩, ⟨.after, "dusty"⟩]] := ⟨_, by cbv, by cbv⟩
  obtain ⟨_, _, hrun, _, hlisted⟩ :=
    afterHooks_only_listed (stubborn.withHooks content) hsame oneStep
  obtain ⟨_, _, _, hending⟩ := (hrun 0 ⟨⟩).resolve_right (by rintro ⟨_, hpanic, _⟩; exact hpanic)
  change Ending.Agree _ _ (((stubborn.withHooks cross).run oneStep).run 0 ⟨⟩).ending at hending
  rw [hrecords, hrecords'] at hending
  obtain ⟨acts, hends, _⟩ := Task.run_ends ((stubborn.withHooks cross).run oneStep) 0 ⟨⟩
  rw [hrecords'] at hends
  cases hending with
  | finished hpairs =>
      exact ⟨hsame, records, records', hrecords, hrecords', hpairs,
        ⟨acts, hends, hlisted acts records' hends⟩, hcontent, hcross⟩

/-- A hook that crashes before there is anything to await takes the records of the whole run with it, where
there are two of them if it succeeds. -/
theorem startled_loses_records :
    content.SameButAnswers (· = .text "boom") startled ∧
      (∃ records, (((stubborn.withHooks content).run oneStep).run 0 ⟨⟩).ending = .finished records ∧
        records.map Record.afterHookErrors = [[], []]) ∧
      (((stubborn.withHooks startled).run oneStep).run 0 ⟨⟩).ending = .crashed (.text "boom") := by
  refine ⟨?_, ⟨_, by cbv, by cbv⟩, by cbv⟩
  exact sameButAnswers_closers (fun _ => .awaited (by simp [Ending.HangAlike]))
    fun _ => .crashes _ rfl

end ScenarioRunner

end Acceptance
