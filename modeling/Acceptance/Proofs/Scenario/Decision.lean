import Acceptance.Proofs.Scenario.Lifecycle

/-!
# Decisions

What follows an attempt. Only a failed step that may be retried is up to the strategy, and that as long as
its budget of retries lasts. A decision reports the failure that there was, and is lost only where the
strategy is.
-/

namespace Acceptance.ScenarioRunner

open Acceptance.Task (Act Loss)

variable {σ ω : Type}

/-- The status that a verdict gives to its attempt. -/
def Verdict.status {number bound : Nat} : Verdict number bound → Status
  | .final status _ => status
  | .again _ _ => .failed

/-- The error that a verdict gives to its attempt. -/
def Verdict.error {number bound : Nat} : Verdict number bound → Option ScenarioError
  | .final _ error => error
  | .again error _ => some (.step error)

variable (runner : ScenarioRunner σ ω) (instance_ : Instance) (number : Nat)

/-- What the strategy is asked about a step that failed within a budget. -/
def inquiry (budget : Nat) (error : StepError) : RetryContext where
  key := instance_.key
  step := error.step
  attempt := number
  retries := ⟨number - 1, budget - (number - 1)⟩

/-- What is decided about a failed step. A failure that may be retried is up to the strategy as long as
the budget lasts, and is final after that. Any other one is final at once. -/
theorem decide_step (plan : RetryPlan) (failure : StepFailure) :
    (failure.error.isRetryable = false ∧
      runner.decide instance_ plan number (some (.step failure)) =
        .done (.final .failed (some (.step failure.error)))) ∨
    failure.error.isRetryable = true ∧
      ((number - 1 < runner.budget plan failure ∧ ∃ within : number ≤ runner.maxBudget plan,
        runner.decide instance_ plan number (some (.step failure)) =
          .emit (.consult instance_.key number) ((runner.strategy failure.error
            (inquiry instance_ number (runner.budget plan failure) failure.error)).bind fun answer =>
              .done (if answer then .again failure.error within
                else .final .failed (some (.step failure.error))))) ∨
      (runner.budget plan failure ≤ number - 1 ∧
        runner.decide instance_ plan number (some (.step failure)) =
          .done (.final .failed (some (if 0 < runner.budget plan failure
            then .retryExhausted number (.step failure.error) else .step failure.error))))) := by
  have hwithin := runner.budget_le_maxBudget plan failure
  rcases Bool.eq_false_or_eq_true failure.error.isRetryable with hretryable | hfinal
  · refine .inr ⟨hretryable, ?_⟩
    unfold decide
    simp only [hretryable, Bool.not_true, Bool.false_eq_true, if_false]
    rcases Nat.lt_or_ge (number - 1) (runner.budget plan failure) with hleft | hspent
    · refine .inl ⟨hleft, by omega, ?_⟩
      rw [dif_pos (Nat.sub_pos_of_lt hleft)]
      simp only [apply_ite Task.done]
      rfl
    · refine .inr ⟨hspent, ?_⟩
      rw [dif_neg (by omega)]
      split
      next => rfl
      next => rfl
  · refine .inl ⟨hfinal, ?_⟩
    unfold decide
    simp only [hfinal, Bool.not_false, if_true]
    rfl

/-- What follows an attempt that failed on a step, given its budget. The strategy is asked as long as the
budget lasts; after that the failure is final, and is exhausted if there was a budget at all. -/
inductive DecidedWithin (budget : Nat) (error : StepError) {bound : Nat} :
    List (Act σ Event) → Task.Ending (Verdict number bound) → Prop
  | retried {asking : List (Act σ Event)} (hleft : number - 1 < budget)
      (hasked : (runner.strategy error (inquiry instance_ number budget error)).Ends asking
        (.finished true)) (within : number ≤ bound) :
      DecidedWithin budget error (.emit (.consult instance_.key number) :: asking)
        (.finished (.again error within))
  | declined {asking : List (Act σ Event)} (hleft : number - 1 < budget)
      (hasked : (runner.strategy error (inquiry instance_ number budget error)).Ends asking
        (.finished false)) :
      DecidedWithin budget error (.emit (.consult instance_.key number) :: asking)
        (.finished (.final .failed (some (.step error))))
  | lost {asking : List (Act σ Event)} {loss : Loss} (hleft : number - 1 < budget)
      (hasked : (runner.strategy error (inquiry instance_ number budget error)).Ends asking
        loss.ending) :
      DecidedWithin budget error (.emit (.consult instance_.key number) :: asking) loss.ending
  | exhausted (hspent : budget ≤ number - 1) (hbudget : 0 < budget) :
      DecidedWithin budget error [] (.finished (.final .failed
        (some (.retryExhausted number (.step error)))))
  | noRetries (hbudget : budget = 0) :
      DecidedWithin budget error [] (.finished (.final .failed (some (.step error))))

/-- The decision on a failure is that within a budget, in every course that it may take. -/
def DecidesWithin (failure : StepFailure) (budget : Nat) : Prop :=
  ∀ acts ending,
    (runner.decide instance_ (runner.plan instance_) number (some (.step failure))).Ends acts ending ↔
      DecidedWithin runner instance_ number budget failure.error acts ending

variable {runner instance_ number} {failure : StepFailure}

theorem decidesWithin_budget (hretryable : failure.error.isRetryable = true) :
    DecidesWithin runner instance_ number failure
      (runner.budget (runner.plan instance_) failure) := by
  intro acts ending
  obtain ⟨hfinal, -⟩ | ⟨-, ⟨hleft, hwithin, heq⟩ | ⟨hspent, heq⟩⟩ :=
    decide_step runner instance_ number (runner.plan instance_) failure
  · simp [hretryable] at hfinal
  · rw [heq, Task.ends_emit]
    constructor
    · rintro ⟨asking, rfl, hrest⟩
      obtain ⟨answer, asked, _, rfl, hasked, hdone⟩ | ⟨loss, rfl, hasked⟩ :=
        Task.ends_bind_or_lost.mp hrest
      · obtain ⟨rfl, rfl⟩ := Task.ends_done.mp hdone
        rw [List.append_nil]
        cases answer with
        | true => exact .retried hleft hasked hwithin
        | false => exact .declined hleft hasked
      · exact .lost hleft hasked
    · intro h
      cases h with
      | retried _ hasked _ => exact ⟨_, rfl, Task.ends_bind_done.mpr ⟨_, hasked, rfl⟩⟩
      | declined _ hasked => exact ⟨_, rfl, Task.ends_bind_done.mpr ⟨_, hasked, rfl⟩⟩
      | lost _ hasked =>
          exact ⟨_, rfl, Task.ends_bind_done.mpr ⟨_, hasked, (Task.Loss.map_ending _ _).symm⟩⟩
      | exhausted hspent _ => exact absurd hleft (Nat.not_lt.mpr hspent)
      | noRetries hbudget => exact absurd (hbudget ▸ hleft) (Nat.not_lt_zero _)
  · rw [heq, Task.ends_done]
    constructor
    · rintro ⟨rfl, rfl⟩
      split
      next hbudget => exact .exhausted hspent hbudget
      next hbudget => exact .noRetries (Nat.eq_zero_of_not_pos hbudget)
    · intro h
      cases h with
      | retried hleft _ _ => exact absurd hleft (Nat.not_lt.mpr hspent)
      | declined hleft _ => exact absurd hleft (Nat.not_lt.mpr hspent)
      | lost hleft _ => exact absurd hleft (Nat.not_lt.mpr hspent)
      | exhausted _ hbudget => exact ⟨rfl, by rw [if_pos hbudget]⟩
      | noRetries hbudget => exact ⟨rfl, by rw [if_neg (Nat.not_lt.mpr (Nat.le_of_eq hbudget))]⟩

variable {acts : List (Act σ Event)} {loss : Loss}

/-- A failure that may not be retried is final, any other one is decided within its budget. -/
theorem decided_of_ends {ending : Task.Ending (Verdict number (runner.maxBudget (runner.plan instance_)))}
    (h : (runner.decide instance_ (runner.plan instance_) number (some (.step failure))).Ends acts ending) :
    (failure.error.isRetryable = false ∧ acts = [] ∧
      ending = .finished (.final .failed (some (.step failure.error)))) ∨
    failure.error.isRetryable = true ∧
      DecidedWithin runner instance_ number (runner.budget (runner.plan instance_) failure) failure.error
        acts ending := by
  obtain ⟨hfinal, heq⟩ | ⟨hretryable, -⟩ :=
    decide_step runner instance_ number (runner.plan instance_) failure
  · rw [heq] at h
    exact .inl ⟨hfinal, Task.ends_done.mp h⟩
  · exact .inr ⟨hretryable, (decidesWithin_budget hretryable acts ending).mp h⟩

/-- A decision reports the failure that there was, and asks nobody but the strategy. -/
theorem reported_of_decide {failure : Option AttemptFailure}
    {verdict : Verdict number (runner.maxBudget (runner.plan instance_))}
    (h : (runner.decide instance_ (runner.plan instance_) number failure).Ends acts
      (.finished verdict)) :
    Decided runner instance_ number failure acts ∧ verdict.status = .ofError failure ∧
      Reported number failure verdict.error := by
  generalize hending : Task.Ending.finished verdict = ending at h
  rcases failure with _ | message | error | failure
  · obtain ⟨rfl, rfl⟩ := Task.ends_done.mp h
    cases hending
    exact ⟨.outright _, rfl, .passed⟩
  · obtain ⟨rfl, rfl⟩ := Task.ends_done.mp h
    cases hending
    exact ⟨.outright _, rfl, .world message⟩
  · obtain ⟨rfl, rfl⟩ := Task.ends_done.mp h
    cases hending
    exact ⟨.outright _, rfl, .beforeHook error⟩
  obtain ⟨-, rfl, rfl⟩ | ⟨-, hwithin⟩ := decided_of_ends h
  · cases hending
    exact ⟨.outright _, rfl, .step failure⟩
  cases hwithin with
  | retried _ hasked _ =>
      cases hending
      exact ⟨.asked hasked, rfl, .step failure⟩
  | declined _ hasked =>
      cases hending
      exact ⟨.asked hasked, rfl, .step failure⟩
  | lost _ _ => exact absurd hending.symm Task.Loss.ending_ne_finished
  | exhausted _ _ =>
      cases hending
      exact ⟨.outright _, rfl, .exhausted failure⟩
  | noRetries _ =>
      cases hending
      exact ⟨.outright _, rfl, .step failure⟩

/-- A decision is lost only where the strategy is asked. -/
theorem asked_of_decide {failure : Option AttemptFailure}
    (h : (runner.decide instance_ (runner.plan instance_) number failure).Ends acts loss.ending) :
    ∃ found asking, failure = some (.step found) ∧
      acts = .emit (.consult instance_.key number) :: asking ∧
      (runner.strategy found.error (runner.consultation instance_ number found)).Ends asking
        loss.ending := by
  rcases failure with _ | message | error | failure
  · exact absurd h Task.not_ends_done_loss
  · exact absurd h Task.not_ends_done_loss
  · exact absurd h Task.not_ends_done_loss
  obtain ⟨-, heq⟩ | ⟨-, ⟨-, _, heq⟩ | ⟨-, heq⟩⟩ :=
    decide_step runner instance_ number (runner.plan instance_) failure
  · rw [heq] at h
    exact absurd h Task.not_ends_done_loss
  · rw [heq] at h
    obtain ⟨asking, rfl, hrest⟩ := Task.ends_emit.mp h
    obtain hasked | ⟨_, _, _, _, _, hdone⟩ := Task.ends_bind_loss.mp hrest
    · exact ⟨failure, asking, rfl, rfl, hasked⟩
    · exact absurd hdone Task.not_ends_done_loss
  · rw [heq] at h
    exact absurd h Task.not_ends_done_loss

end Acceptance.ScenarioRunner
