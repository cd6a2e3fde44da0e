import Acceptance.Failure
import Acceptance.Instance

/-!
# Records

What is reported about an attempt at a scenario, and counts of such reports.
-/

namespace Acceptance

/-- What is reported about a step. -/
structure StepRecord where
  keyword : String
  text : String
  background : Bool
  status : Status
  error : Option StepError
deriving DecidableEq, Inhabited

/-- The record of a step that never ran. -/
def StepRecord.skipped (step : Step × Bool) : StepRecord :=
  { keyword := step.1.keyword, text := step.1.text, background := step.2, status := .skipped,
    error := none }

/-- The record of a step that ran. -/
def StepRecord.ran (step : Step) (background : Bool) (error : Option StepError) : StepRecord :=
  { keyword := step.keyword, text := step.text, background, status := .ofError error, error }

/-- What is reported about an attempt at an instance. Times count nanoseconds from a common start. -/
structure Record where
  key : ScenarioKey
  template : String
  iteration : Option Nat
  tags : List String
  status : Status
  steps : List StepRecord
  error : Option ScenarioError
  afterHookErrors : List HookError
  attempt : Nat
  startedAt : Nat
  finishedAt : Nat
deriving DecidableEq, Inhabited

namespace Record

/-- The number of retries before the attempt. -/
def retryAttempt (record : Record) : Nat := record.attempt - 1

/-- The time that the attempt took, or none when its end lies before its start. -/
def duration (record : Record) : Duration := ⟨record.finishedAt - record.startedAt⟩

/-- The first step that failed. -/
def failedStep? (record : Record) : Option StepRecord :=
  record.steps.find? fun step => step.status = .failed

/-- The record of an attempt with the given steps; all further steps of the instance are skipped. -/
def ofAttempt (instance_ : Instance) (attempt : Nat) (steps : List StepRecord) (status : Status)
    (error : Option ScenarioError) (afterHookErrors : List HookError)
    (startedAt finishedAt : Nat) : Record where
  key := instance_.key
  template := instance_.template
  iteration := instance_.iteration
  tags := instance_.tags
  status := status
  steps := steps ++ (instance_.allSteps.drop steps.length).map StepRecord.skipped
  error := error
  afterHookErrors := afterHookErrors
  attempt := attempt
  startedAt := startedAt
  finishedAt := finishedAt

/-- The record of an instance that is never run. -/
def skipped (instance_ : Instance) (now : Nat) : Record :=
  ofAttempt instance_ 1 [] .skipped none [] now now

/-- The record of an instance that fails before any of its steps. -/
def failed (instance_ : Instance) (error : ScenarioError) (now : Nat) : Record :=
  ofAttempt instance_ 1 [] .failed (some error) [] now now

end Record

/-- Counts of records by outcome, and of those that are not first attempts. -/
structure Stats where
  passed : Nat := 0
  failed : Nat := 0
  skipped : Nat := 0
  retried : Nat := 0
deriving DecidableEq, Inhabited

namespace Stats

/-- The sum of two counts. -/
def add (left right : Stats) : Stats :=
  { passed := left.passed + right.passed, failed := left.failed + right.failed,
    skipped := left.skipped + right.skipped, retried := left.retried + right.retried }

instance : Add Stats := ⟨add⟩

/-- The number of records counted. -/
def total (stats : Stats) : Nat := stats.passed + stats.failed + stats.skipped

/-- Counts some records. -/
def ofRecords (records : List Record) : Stats :=
  { passed := records.countP fun record => record.status = .passed
    failed := records.countP fun record => record.status = .failed
    skipped := records.countP fun record => record.status = .skipped
    retried := records.countP fun record => 1 < record.attempt }

end Stats

end Acceptance
