import Acceptance.Proofs.Scenario.Decision
import Acceptance.Proofs.Scenario.Outcome
import Acceptance.Proofs.Task.Resumption

/-!
# Retries

Which attempts at a scenario are followed by another one, and what the last one is reported as. The
number of retries that an attempt may have depends on the step that it failed on, so it is known only
when the attempt has come out.
-/

namespace Acceptance.ScenarioRunner

variable {σ ω : Type}

/-- An attempt in the run of a scenario, with its outcome and its record: what was done for the
attempt itself, for the decision what follows it, for its record, and until the next attempt. -/
structure Try (σ : Type) where
  startedAt : Nat
  attempting : List (Task.Act σ Event)
  outcome : Outcome
  deciding : List (Task.Act σ Event)
  finishing : List (Task.Act σ Event)
  waiting : List (Task.Act σ Event)
  record : Record

/-- All that was done in an attempt. -/
def Try.acts (attempt : Try σ) : List (Task.Act σ Event) :=
  .clock attempt.startedAt ::
    (attempt.attempting ++ (attempt.deciding ++ (attempt.finishing ++ attempt.waiting)))

variable (runner : ScenarioRunner σ ω) (instance_ : Instance) (number : Nat)

/-- The number of retries that a scenario may have after a failed step, given what the definition of
the step allows. -/
def budgetOf (allowed : Option Nat) : Nat := allowed.getD (runner.plan instance_).retries

/-- The strategy is asked about a failed attempt, and answers. -/
def Consulted (error : StepError) (allowed : Option Nat) (deciding : List (Task.Act σ Event))
    (answer : Bool) : Prop :=
  ∃ acts, deciding = .emit (.consult instance_.key number) :: acts ∧
    (runner.strategy error
      { key := instance_.key, step := error.step, attempt := number,
        retries := ⟨number - 1, runner.budgetOf instance_ allowed - (number - 1)⟩ }).Ends acts
      (.finished answer)

/-- An attempt is followed by another one: it failed on a step that may be retried, retries are left,
and the strategy agrees. -/
structure Retried (attempt : Try σ) (error : StepError) (allowed : Option Nat) : Prop where
  outcome : attempt.outcome = .failed error allowed
  retryable : error.isRetryable = true
  left : number - 1 < runner.budgetOf instance_ allowed
  consulted : runner.Consulted instance_ number error allowed attempt.deciding true
  status : attempt.record.status = .failed
  error : attempt.record.error = some (.step error)

/-- How the last attempt is reported, and what is done to decide that it is the last one. Only a
failed step that may be retried leads to the strategy or is reported as exhausted. -/
inductive Settles : Outcome → List (Task.Act σ Event) → Status → Option ScenarioError → Prop
  | passed : Settles .passed [] .passed none
  | noWorld (message : String) : Settles (.noWorld message) [] .failed (some (.world message))
  | refused (error : HookError) : Settles (.refused error) [] .failed (some (.beforeHook error))
  | notRetryable {error : StepError} {allowed : Option Nat} (h : error.isRetryable = false) :
      Settles (.failed error allowed) [] .failed (some (.step error))
  | declined {error : StepError} {allowed : Option Nat} {deciding : List (Task.Act σ Event)}
      (h : error.isRetryable = true) (hleft : number - 1 < runner.budgetOf instance_ allowed)
      (hconsulted : runner.Consulted instance_ number error allowed deciding false) :
      Settles (.failed error allowed) deciding .failed (some (.step error))
  | exhausted {error : StepError} {allowed : Option Nat} (h : error.isRetryable = true)
      (hleft : runner.budgetOf instance_ allowed ≤ number - 1)
      (hbudget : 0 < runner.budgetOf instance_ allowed) :
      Settles (.failed error allowed) [] .failed (some (.retryExhausted number (.step error)))
  | noRetries {error : StepError} {allowed : Option Nat} (h : error.isRetryable = true)
      (hbudget : runner.budgetOf instance_ allowed = 0) :
      Settles (.failed error allowed) [] .failed (some (.step error))

/-- A verdict on an attempt fits how it came out and what was done for the decision. -/
def Justified {bound : Nat} (outcome : Outcome) (deciding : List (Task.Act σ Event)) :
    Verdict number bound → Prop
  | .final status error => runner.Settles instance_ number outcome deciding status error
  | .again error _ => ∃ allowed, outcome = .failed error allowed ∧ error.isRetryable = true ∧
      number - 1 < runner.budgetOf instance_ allowed ∧
      runner.Consulted instance_ number error allowed deciding true

/-- The attempts of a scenario from an attempt number on. -/
inductive RetriesFrom : Nat → List (Try σ) → Prop
  | last {number : Nat} {attempt : Try σ}
      (hattempted : runner.Attempted instance_ number attempt.attempting attempt.outcome)
      (hnumber : attempt.record.attempt = number) (hkey : attempt.record.key = instance_.key)
      (hfinished : ∃ before, attempt.finishing = before ++ [.clock attempt.record.finishedAt])
      (hsettles : runner.Settles instance_ number attempt.outcome attempt.deciding
        attempt.record.status attempt.record.error) : RetriesFrom number [attempt]
  | again {number : Nat} {attempt : Try σ} {rest : List (Try σ)} {error : StepError}
      {allowed : Option Nat}
      (hattempted : runner.Attempted instance_ number attempt.attempting attempt.outcome)
      (hnumber : attempt.record.attempt = number) (hkey : attempt.record.key = instance_.key)
      (hfinished : ∃ before, attempt.finishing = before ++ [.clock attempt.record.finishedAt])
      (hretried : runner.Retried instance_ number attempt error allowed)
      (hrest : RetriesFrom (number + 1) rest) : RetriesFrom number (attempt :: rest)

variable {runner instance_ number}

section Ends

variable {acts : List (Task.Act σ Event)}

/-- The decision what follows an attempt, from how the attempt came out. -/
theorem justified_of_ends {outcome : Outcome} {failure : Option AttemptFailure}
    {verdict : Verdict number (runner.maxBudget (runner.plan instance_))}
    (hfits : runner.Fits outcome failure)
    (h : (runner.decide instance_ (runner.plan instance_) number failure).Ends acts
      (.finished verdict)) :
    runner.Justified instance_ number outcome acts verdict := by
  generalize hending : Task.Ending.finished verdict = ending at h
  cases outcome with
  | noWorld message =>
      cases hfits
      obtain ⟨rfl, rfl⟩ := Task.ends_done.mp h
      cases hending
      exact .noWorld message
  | refused error =>
      cases hfits
      obtain ⟨rfl, rfl⟩ := Task.ends_done.mp h
      cases hending
      exact .refused error
  | passed =>
      cases hfits
      obtain ⟨rfl, rfl⟩ := Task.ends_done.mp h
      cases hending
      exact .passed
  | failed error allowed =>
      obtain ⟨failed, rfl, rfl, hbudget⟩ := hfits
      obtain ⟨hfinal, rfl, rfl⟩ | ⟨hretryable, hwithin⟩ := decided_of_ends h
      · cases hending
        exact .notRetryable hfinal
      rw [hbudget] at hwithin
      cases hwithin with
      | retried hleft hasked _ =>
          cases hending
          exact ⟨allowed, rfl, hretryable, hleft, _, rfl, hasked⟩
      | declined hleft hasked =>
          cases hending
          exact .declined hretryable hleft ⟨_, rfl, hasked⟩
      | lost _ _ => exact absurd hending.symm Task.Loss.ending_ne_finished
      | exhausted hspent hsome =>
          cases hending
          exact .exhausted hretryable hspent hsome
      | noRetries hnone =>
          cases hending
          exact .noRetries hretryable hnone

/-- The run of a scenario from an attempt number on goes through a number of attempts, and gives their
records. -/
theorem retriesFrom_of_ends {number : Nat} {acts : List (Task.Act σ Event)} {records : List Record}
    (h : (runner.attemptsFrom instance_ (runner.plan instance_) number).Ends acts
      (.finished records)) :
    ∃ tries, acts = tries.flatMap Try.acts ∧ records = tries.map Try.record ∧
      runner.RetriesFrom instance_ number tries := by
  rw [attemptsFrom] at h
  simp only [bind, pure, Task.ends_bind_finished, ends_now] at h
  obtain ⟨startedAt, _, _, rfl, rfl, ended, attempting, _, rfl, hattempt, verdict, deciding, _, rfl,
    hdecide, hrest⟩ := h
  obtain ⟨outcome, hattempted, hfits⟩ := (opened_of_ends hattempt).attempted
  have hdecided := justified_of_ends hfits hdecide
  cases verdict with
  | final status error =>
      simp only [Task.ends_bind_finished, Task.ends_done] at hrest
      obtain ⟨record, finishing, _, rfl, hfinish, rfl, heq⟩ := hrest
      cases heq
      obtain ⟨before, _, finishedAt, rfl, _, rfl⟩ := closed_of_finish hfinish
      refine ⟨[⟨startedAt, attempting, outcome, deciding, before ++ [.clock finishedAt], [], _⟩], ?_, rfl,
        .last hattempted rfl rfl ⟨before, rfl⟩ hdecided⟩
      simp [Try.acts]
  | again error within =>
      simp only [Task.ends_bind_finished, Task.ends_done] at hrest
      obtain ⟨record, finishing, _, rfl, hfinish, _, waiting, _, rfl, hwait, records, later, _, rfl,
        hlater, rfl, heq⟩ := hrest
      cases heq
      obtain ⟨before, _, finishedAt, rfl, _, rfl⟩ := closed_of_finish hfinish
      obtain ⟨allowed, rfl, hretryable, hleft, hconsulted⟩ := hdecided
      obtain ⟨tries, rfl, rfl, htries⟩ := retriesFrom_of_ends hlater
      refine ⟨⟨startedAt, attempting, .failed error allowed, deciding, before ++ [.clock finishedAt],
          waiting, _⟩ :: tries, ?_, rfl,
        .again hattempted rfl rfl ⟨before, rfl⟩ ⟨rfl, hretryable, hleft, hconsulted, rfl, rfl⟩ htries⟩
      simp [Try.acts]
termination_by runner.maxBudget (runner.plan instance_) + 1 - number

end Ends

/-! ## The whole run -/

/-- What attempt comes where in the run of a scenario from an attempt number on. -/
theorem RetriesFrom.at {tries : List (Try σ)} (h : runner.RetriesFrom instance_ number tries)
    {k : Nat} {attempt : Try σ} (hattempt : tries[k]? = some attempt) :
    runner.Attempted instance_ (number + k) attempt.attempting attempt.outcome ∧
      attempt.record.attempt = number + k ∧ attempt.record.key = instance_.key ∧
      (k + 1 < tries.length →
        ∃ error allowed, runner.Retried instance_ (number + k) attempt error allowed) ∧
      (k + 1 = tries.length → runner.Settles instance_ (number + k) attempt.outcome attempt.deciding
        attempt.record.status attempt.record.error) := by
  induction h generalizing k with
  | last hattempted hnumber hkey _ hsettles =>
      obtain ⟨hlt, rfl⟩ := List.getElem?_eq_some_iff.mp hattempt
      obtain rfl : k = 0 := Nat.lt_one_iff.mp hlt
      exact ⟨hattempted, hnumber, hkey, fun hlater => absurd hlater (Nat.lt_irrefl _),
        fun _ => hsettles⟩
  | again hattempted hnumber hkey _ hretried hrest ih =>
      cases k with
      | zero =>
          cases hattempt
          refine ⟨hattempted, hnumber, hkey, fun _ => ⟨_, _, hretried⟩, fun hlast => ?_⟩
          cases hrest <;> simp at hlast
      | succ k =>
          obtain ⟨hattempted', hnumber', hkey', hretried', hsettles'⟩ := ih hattempt
          rw [Nat.add_right_comm, Nat.add_assoc] at hattempted' hnumber' hretried' hsettles'
          exact ⟨hattempted', hnumber', hkey', fun hlater => hretried' (Nat.lt_of_succ_lt_succ hlater),
            fun hlast => hsettles' (Nat.succ.inj hlast)⟩

theorem RetriesFrom.ne_nil {tries : List (Try σ)} (h : runner.RetriesFrom instance_ number tries) :
    tries ≠ [] := by
  cases h <;> exact List.cons_ne_nil _ _

theorem RetriesFrom.keys {tries : List (Try σ)} (h : runner.RetriesFrom instance_ number tries) :
    ∀ attempt ∈ tries, attempt.record.key = instance_.key := by
  intro attempt hattempt
  obtain ⟨k, hk⟩ := List.getElem?_of_mem hattempt
  exact (h.at hk).2.2.1

/-- The times in the records of attempts are told one after another. -/
theorem RetriesFrom.finishedAt_sublist {tries : List (Try σ)}
    (h : runner.RetriesFrom instance_ number tries) :
    (tries.map fun attempt => attempt.record.finishedAt).Sublist
      (Task.times (tries.flatMap Try.acts)) := by
  -- The record of an attempt is made at a time that is told in the attempt.
  have hone {attempt : Try σ}
      (hfinished : ∃ before, attempt.finishing = before ++ [.clock attempt.record.finishedAt]) :
      [attempt.record.finishedAt].Sublist (Task.times attempt.acts) := by
    obtain ⟨before, hbefore⟩ := hfinished
    rw [List.singleton_sublist, Try.acts, hbefore, Task.times, List.mem_filterMap]
    exact ⟨.clock attempt.record.finishedAt, by simp, rfl⟩
  induction h with
  | last _ _ _ hfinished _ => simpa using hone hfinished
  | again _ _ _ hfinished _ _ ih =>
      rw [List.flatMap_cons, Task.times_append]
      exact (hone hfinished).append ih

theorem Settles.passed_iff {outcome : Outcome} {deciding : List (Task.Act σ Event)} {status : Status}
    {error : Option ScenarioError}
    (h : runner.Settles instance_ number outcome deciding status error) :
    status = .passed ↔ outcome = .passed := by
  cases h <;> simp

/-- The attempts in the run of a scenario, in order. -/
structure RetryHistory (runner : ScenarioRunner σ ω) (instance_ : Instance)
    (tries : List (Try σ)) : Prop where
  nonempty : tries ≠ []
  attempted : ∀ k attempt, tries[k]? = some attempt →
    runner.Attempted instance_ (k + 1) attempt.attempting attempt.outcome
  numbered : ∀ k attempt, tries[k]? = some attempt →
    attempt.record.attempt = k + 1 ∧ attempt.record.key = instance_.key
  /-- Every attempt but the last one failed on a step, and was followed by another one because retries
  were left and the strategy agreed. -/
  retried : ∀ k attempt, tries[k]? = some attempt → k + 1 < tries.length →
    ∃ error allowed, runner.Retried instance_ (k + 1) attempt error allowed
  /-- The last attempt is final for one of the reasons that there are. -/
  settled : ∀ k attempt, tries[k]? = some attempt → k + 1 = tries.length →
    runner.Settles instance_ (k + 1) attempt.outcome attempt.deciding attempt.record.status
      attempt.record.error
  /-- The last attempt is reported as passed exactly if its world was created and all hooks before the
  scenario and all steps passed. -/
  passed : ∀ k attempt, tries[k]? = some attempt → k + 1 = tries.length →
    (attempt.record.status = .passed ↔ attempt.outcome = .passed)

/-- However a scenario is run, if its run ends with records they are those of its attempts. -/
theorem run_retryHistory {acts : List (Task.Act σ Event)} {records : List Record}
    (h : (runner.run instance_).Ends acts (.finished records)) :
    ∃ tries, acts = tries.flatMap Try.acts ∧ records = tries.map Try.record ∧
      RetryHistory runner instance_ tries := by
  obtain ⟨tries, hacts, hrecords, hfrom⟩ := retriesFrom_of_ends h
  refine ⟨tries, hacts, hrecords, ?_⟩
  have hat {k : Nat} {attempt : Try σ} (hattempt : tries[k]? = some attempt) := hfrom.at hattempt
  simp only [Nat.add_comm 1] at hat
  exact
    { nonempty := hfrom.ne_nil
      attempted := fun _ _ hattempt => (hat hattempt).1
      numbered := fun _ _ hattempt => ⟨(hat hattempt).2.1, (hat hattempt).2.2.1⟩
      retried := fun _ _ hattempt => (hat hattempt).2.2.2.1
      settled := fun _ _ hattempt => (hat hattempt).2.2.2.2
      passed := fun _ _ hattempt hlast => ((hat hattempt).2.2.2.2 hlast).passed_iff }

/-- A suite whose fallback takes every step over and fails, with one retry for every scenario. -/
def stubborn : ScenarioRunner PUnit PUnit where
  suite :=
    { fallback := some fun _ => .done (some (.done (.error "refused")))
      newWorld := .done (.done (.ok ⟨⟩)) }
  options := { retries := 1 }
  strategy := .unconditional

/-- A scenario with a single step. -/
def oneStep : Instance where
  feature := "doors"
  template := "opening"
  name := "opening"
  iteration := none
  tags := []
  background := []
  steps := [{ keyword := "When ", text := "the door opens", table := none, docString := none }]

theorem run_retryHistory_stubborn :
    ∃ acts records tries, (stubborn.run oneStep).Ends acts (.finished records) ∧
      records = tries.map Try.record ∧ RetryHistory stubborn oneStep tries ∧
      records.map Record.error =
        [some (.step (.failed "the door opens" "refused")),
          some (.retryExhausted 2 (.step (.failed "the door opens" "refused")))] := by
  obtain ⟨records, hrecords, herrors⟩ :
      ∃ records, ((stubborn.run oneStep).run 0 ⟨⟩).ending = .finished records ∧
        records.map Record.error =
          [some (.step (.failed "the door opens" "refused")),
            some (.retryExhausted 2 (.step (.failed "the door opens" "refused")))] :=
    ⟨_, by cbv, by cbv⟩
  obtain ⟨acts, hends, _⟩ := Task.run_ends (stubborn.run oneStep) 0 ⟨⟩
  rw [hrecords] at hends
  obtain ⟨tries, _, heq, history⟩ := run_retryHistory hends
  exact ⟨acts, records, tries, hends, heq, history, herrors⟩

end Acceptance.ScenarioRunner
