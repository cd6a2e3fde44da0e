import Acceptance.Proofs.Scenario.Trace

/-!
# The shape of records

A record tells of all steps of its instance in order: first steps that passed, then possibly the one
that the attempt failed on, and steps that were never run. How the attempt came out fits its steps.
-/

namespace Acceptance

/-- What has come to its end was not skipped. -/
theorem Status.ofError_ne_skipped {α : Type} (error : Option α) : ofError error ≠ .skipped := by
  cases error <;> nofun

/-- What the record of a step repeats from the step. -/
def StepRecord.label (record : StepRecord) : String × String × Bool :=
  (record.keyword, record.text, record.background)

/-- What is repeated from a step in its record. -/
def Instance.label (step : Step × Bool) : String × String × Bool :=
  (step.1.keyword, step.1.text, step.2)

namespace Record

/-- The error of the step that an attempt failed on, if it failed on one. -/
def stepError? (record : Record) : Option StepError := record.error.bind ScenarioError.stepError?

/-- A record that fits an instance, and in itself. -/
structure IsShaped (instance_ : Instance) (record : Record) : Prop where
  aligned : record.steps.map StepRecord.label = instance_.allSteps.map Instance.label
  ordered : ∃ passed failed skipped, failed ≤ 1 ∧ record.steps.map StepRecord.status =
    List.replicate passed .passed ++ List.replicate failed .failed ++ List.replicate skipped .skipped
  failing : (∃ step ∈ record.steps, step.status = .failed) ↔ record.stepError?.isSome
  carried : ∀ error ∈ record.stepError?, ∃ step ∈ record.failedStep?, step.error = some error
  failed : record.status = .failed ↔ record.error.isSome
  passed : record.status = .passed → ∀ step ∈ record.steps, step.status = .passed
  skipped : record.status = .skipped → ∀ step ∈ record.steps, step.status = .skipped

end Record

namespace StepRecord

variable (step : Step × Bool) (error : StepError)

@[simp] theorem label_ran (error : Option StepError) :
    (ran step.1 step.2 error).label = Instance.label step := rfl

@[simp] theorem label_skipped : (skipped step).label = Instance.label step := rfl

@[simp] theorem status_ran_none : (ran step.1 step.2 none).status = .passed := rfl

@[simp] theorem status_ran_some : (ran step.1 step.2 (some error)).status = .failed := rfl

@[simp] theorem status_skipped : (skipped step).status = .skipped := rfl

/-- The record of a step that passed. -/
abbrev good (step : Step × Bool) : StepRecord := ran step.1 step.2 none

end StepRecord

namespace Record

variable {instance_ : Instance} {record : Record} {before after : List (Step × Bool)}

/-- All steps passed, or all that there are up to where an attempt was given up without a step that
failed. -/
theorem isShaped_of_unbroken (hall : instance_.allSteps = before ++ after)
    (hsteps : record.steps = before.map StepRecord.good ++ after.map StepRecord.skipped)
    (hnone : record.stepError? = none) (hfailed : record.status = .failed ↔ record.error.isSome)
    (hpassed : record.status = .passed → after = []) (hskipped : record.status = .skipped → before = []) :
    record.IsShaped instance_ where
  aligned := by simp [hsteps, hall, Function.comp_def]
  ordered := by
    refine ⟨before.length, 0, after.length, Nat.zero_le 1, ?_⟩
    simp [hsteps, Function.comp_def, List.map_const']
  failing := by
    rw [hnone, hsteps]
    simp only [List.mem_append, List.mem_map, Option.isSome_none, Bool.false_eq_true, iff_false]
    rintro ⟨_, ⟨step, _, rfl⟩ | ⟨step, _, rfl⟩, hstatus⟩ <;> cases hstatus
  carried := by simp [hnone]
  failed := hfailed
  passed := by
    intro hstatus
    rw [hsteps, hpassed hstatus, List.map_nil, List.append_nil]
    exact List.forall_mem_map.mpr fun _ _ => rfl
  skipped := by
    intro hstatus
    rw [hsteps, hskipped hstatus, List.map_nil, List.nil_append]
    exact List.forall_mem_map.mpr fun _ _ => rfl

/-- A step failed, so all steps before it passed and none after it was run. -/
theorem isShaped_of_broken {step : Step × Bool} {error : StepError}
    (hall : instance_.allSteps = before ++ step :: after)
    (hsteps : record.steps = before.map StepRecord.good ++
      .ran step.1 step.2 (some error) :: after.map StepRecord.skipped)
    (herror : record.stepError? = some error) (hstatus : record.status = .failed) :
    record.IsShaped instance_ where
  aligned := by simp [hsteps, hall, Function.comp_def]
  ordered := by
    refine ⟨before.length, 1, after.length, Nat.le_refl 1, ?_⟩
    simp [hsteps, Function.comp_def, List.map_const']
  failing := by
    rw [herror, hsteps]
    simp only [Option.isSome_some, iff_true]
    exact ⟨_, List.mem_append_right _ List.mem_cons_self, rfl⟩
  carried := by
    rintro found hfound
    obtain rfl : error = found := Option.some.inj (herror.symm.trans hfound)
    refine ⟨.ran step.1 step.2 (some error), ?_, rfl⟩
    -- No step before it failed, so it is the first one that is found.
    have hgood : (before.map StepRecord.good).find? (fun step => step.status = .failed) = none := by
      simp
    simp [failedStep?, hsteps, List.find?_append, hgood]
  failed := by
    have hsome : record.error.isSome := by
      unfold stepError? at herror
      obtain ⟨cause, hcause, _⟩ := Option.bind_eq_some_iff.mp herror
      simp [hcause]
    simp [hstatus, hsome]
  passed := by simp [hstatus]
  skipped := by simp [hstatus]

/-- The record of an attempt that got to none of its steps fits the instance, unless it is one of a pass
or tells of a failed step. -/
theorem isShaped_of_untouched {status : Status} {error : Option ScenarioError}
    {number startedAt finishedAt : Nat} {errors : List HookError}
    (hnone : error.bind ScenarioError.stepError? = none) (hfailed : status = .failed ↔ error.isSome)
    (hpassed : status ≠ .passed) :
    (ofAttempt instance_ number [] status error errors startedAt finishedAt).IsShaped instance_ :=
  isShaped_of_unbroken (List.nil_append _).symm rfl hnone hfailed (fun h => absurd h hpassed)
    fun _ => rfl

/-- The record of an instance that is never run fits it. -/
theorem isShaped_skipped (instance_ : Instance) (now : Nat) :
    (Record.skipped instance_ now).IsShaped instance_ :=
  isShaped_of_untouched rfl (by simp) nofun

/-- The record of an instance that fails before any of its steps fits it. -/
theorem isShaped_failed {error : ScenarioError} (herror : error.stepError? = none)
    (instance_ : Instance) (now : Nat) : (Record.failed instance_ error now).IsShaped instance_ :=
  isShaped_of_untouched herror (by simp) nofun

end Record

namespace ScenarioRunner

open Acceptance.Task (Act)

variable {σ ω : Type} {runner : ScenarioRunner σ ω} {instance_ : Instance} {number : Nat}
  {acts : List (Act σ Event)}

/-- Steps that are run without a failure all pass. -/
theorem StepsLived.records_of_passed {steps : List (Step × Bool)} {world world' : ω}
    {records : List StepRecord}
    (h : StepsLived runner instance_ number steps world acts records none world') :
    records = steps.map StepRecord.good := by
  generalize hfailure : (none : Option StepFailure) = failure at h
  induction h with
  | nil _ => rfl
  | fails _ => cases hfailure
  | passes _ _ ih => rw [List.map_cons, ih hfailure]

/-- Steps that are run with a failure break off at the step that failed. -/
theorem StepsLived.records_of_failed {steps : List (Step × Bool)} {world world' : ω}
    {records : List StepRecord} {failure : StepFailure}
    (h : StepsLived runner instance_ number steps world acts records (some failure) world') :
    ∃ before step after, steps = before ++ step :: after ∧
      records = before.map StepRecord.good ++ [.ran step.1 step.2 (some failure.error)] := by
  generalize hfound : some failure = found at h
  induction h with
  | nil _ => cases hfound
  | @fails step rest _ _ _ _ _ =>
      cases hfound
      exact ⟨[], step, rest, rfl, rfl⟩
  | @passes step rest _ _ _ _ _ _ _ _ _ ih =>
      obtain ⟨before, broken, after, rfl, rfl⟩ := ih hfound
      exact ⟨step :: before, broken, after, rfl, rfl⟩

theorem Reported.isSome_iff {failure : Option AttemptFailure} {error : Option ScenarioError}
    (h : Reported number failure error) : Status.ofError failure = .failed ↔ error.isSome := by
  cases h <;> simp [Status.ofError]

theorem Reported.stepError? {failure : StepFailure} {error : Option ScenarioError}
    (h : Reported number (some (.step failure)) error) :
    error.bind ScenarioError.stepError? = some failure.error := by
  cases h <;> rfl

/-- The record of an attempt that is lived through fits the instance. -/
theorem Lived.isShaped {record : Record} (h : Lived runner instance_ number acts record) :
    record.IsShaped instance_ := by
  obtain ⟨startedAt, finishedAt, hopened, _, _, hreported, _⟩ := h
  have hfailed := hreported.isSome_iff
  cases hopened with
  | noWorld _ =>
      cases hreported
      exact Record.isShaped_of_untouched rfl hfailed nofun
  | worldCrashed _ =>
      cases hreported
      exact Record.isShaped_of_untouched rfl hfailed nofun
  | refused _ _ =>
      cases hreported
      exact Record.isShaped_of_untouched rfl hfailed nofun
  | @stepped _ _ _ _ failure _ _ _ _ _ hsteps =>
      cases failure with
      | none =>
          cases hreported
          obtain rfl := hsteps.records_of_passed
          refine Record.isShaped_of_unbroken (List.append_nil _).symm ?_ rfl hfailed (fun _ => rfl) nofun
          simp [Record.ofAttempt]
      | some failure =>
          obtain ⟨before, step, after, hall, rfl⟩ := hsteps.records_of_failed
          refine Record.isShaped_of_broken hall ?_ hreported.stepError? rfl
          have hrest : instance_.allSteps.drop (before.length + 1) = after := by
            rw [hall, List.drop_length_add_append]
            rfl
          simp [Record.ofAttempt, hrest]

/-- An attempt is never recorded as skipped. -/
theorem Lived.ne_skipped {record : Record} (h : Lived runner instance_ number acts record) :
    record.status ≠ .skipped := by
  obtain ⟨startedAt, finishedAt, _, _, _, _, _⟩ := h
  exact Status.ofError_ne_skipped _

/-- All records of a run fit its instance, and none of them is skipped. -/
theorem isShaped_of_ends {acts : List (Act σ Event)} {records : List Record}
    (h : (runner.run instance_).Ends acts (.finished records)) :
    ∀ record ∈ records, record.IsShaped instance_ ∧ record.status ≠ .skipped :=
  forall_records_of_lived h fun _ _ _ hlived => ⟨hlived.isShaped, hlived.ne_skipped⟩

end ScenarioRunner

end Acceptance
