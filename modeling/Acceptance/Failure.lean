import Acceptance.Duration
import Acceptance.Hook

/-!
# Failures

Why a step, a scenario or the loading of examples failed, and the text of each cause.
-/

namespace Acceptance

/-- Why a step failed. -/
inductive StepError
  | notFound (text : String)
  | timeout (text : String) (limit : Duration)
  | failed (text : String) (message : String)
  | hook (text : String) (error : HookError)
deriving DecidableEq, Inhabited

namespace StepError

/-- The text of the step that failed. -/
def step : StepError → String
  | notFound text => text
  | timeout text _ => text
  | failed text _ => text
  | hook text _ => text

/-- The kinds of step errors. -/
inductive Kind
  | notFound | timeout | failed | hook
deriving DecidableEq, Inhabited

/-- The name of a kind. -/
def Kind.toText : Kind → String
  | notFound => "NotFound"
  | timeout => "Timeout"
  | failed => "Failed"
  | hook => "Hook"

/-- The kind of a step error. -/
def kind : StepError → Kind
  | notFound _ => .notFound
  | timeout _ _ => .timeout
  | failed _ _ => .failed
  | hook _ _ => .hook

/-- Whether another attempt may help. A step without a definition fails again. -/
def isRetryable : StepError → Bool
  | notFound _ => false
  | _ => true

/-- The text of a step error. -/
def toText : StepError → String
  | notFound text => "Step doesn't match any definition: " ++ text
  | timeout text limit => "Step timed out after " ++ limit.toText ++ ": " ++ text
  | failed text message => "Step failed: " ++ text ++ "\n" ++ message
  | hook _ error => error.toText

end StepError

/-- Why a scenario failed. -/
inductive ScenarioError
  | step (error : StepError)
  | beforeHook (error : HookError)
  | featureHook (error : HookError)
  | world (message : String)
  | examples (message : String)
  | retryExhausted (attempts : Nat) (source : ScenarioError)
  | workerCrashed (message : String)
deriving DecidableEq, Inhabited

namespace ScenarioError

/-- The error of the step that a scenario failed on, if it failed on one. -/
def stepError? : ScenarioError → Option StepError
  | step error => some error
  | retryExhausted _ source => source.stepError?
  | _ => none

/-- The text of a scenario error. -/
def toText : ScenarioError → String
  | step error => error.toText
  | beforeHook error => error.toText
  | featureHook error => "Feature " ++ error.toText
  | world message => "Failed to create World: " ++ message
  | examples message => "Failed to expand examples: " ++ message
  | retryExhausted attempts source =>
    "Retries exhausted after " ++ toString attempts ++ " attempts: " ++ source.toText
  | workerCrashed message => "Worker crashed: " ++ message

end ScenarioError

/-- Why examples cannot be had from a source. -/
inductive ExamplesError
  | noSource (name : String)
  | unknown (name : String)
  | unreadable
  | malformed
  | shape (name : String) (reason : String)
deriving DecidableEq, Inhabited

/-- The text of an examples error. What a file or its format is at fault for is not told. -/
def ExamplesError.toText : ExamplesError → String
  | noSource name => "No examples source configured to load `" ++ name ++ "`"
  | unknown name => "Unknown examples source `" ++ name ++ "`"
  | unreadable => "Failed to read examples from..."
  | malformed => "Malformed examples in..."
  | shape name reason => "Examples `" ++ name ++ "` have invalid shape: " ++ reason

end Acceptance
