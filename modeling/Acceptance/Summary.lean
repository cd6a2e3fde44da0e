import Acceptance.FeatureRun

/-!
# Summaries

The outcome of a whole run: the outcomes of its features put together.
-/

namespace Acceptance

/-- The outcome of a run. -/
structure Summary where
  results : List Record := []
  stats : Stats := {}
  discardedAttempts : Nat := 0
  warnings : List ExpansionWarning := []
  usedColumns : List UsedColumns := []
  featureHookErrors : List HookError := []
deriving Inhabited

namespace Summary

/-- Adds the outcome of a feature. -/
def absorb (summary : Summary) (result : FeatureResult) : Summary where
  results := summary.results ++ result.aggregate.records
  stats := summary.stats + result.aggregate.stats
  discardedAttempts := summary.discardedAttempts + result.aggregate.discarded
  warnings := summary.warnings ++ result.warnings
  usedColumns := summary.usedColumns ++ result.usedColumns
  featureHookErrors := summary.featureHookErrors ++ result.hookErrors

/-- The outcome of a run from those of its features. -/
def ofResults (results : List FeatureResult) : Summary := results.foldl absorb {}

/-- Whether a final record is one of a failure. -/
def hasFailures (summary : Summary) : Bool := 0 < summary.stats.failed

/-- Whether the run is to be reported as failed: a scenario failed, or a hook after a scenario or a
feature did. -/
def executionFailed (summary : Summary) : Bool :=
  summary.hasFailures || !summary.featureHookErrors.isEmpty ||
    summary.results.any fun record => !record.afterHookErrors.isEmpty

/-- The first final record with a key. -/
def get? (summary : Summary) (key : ScenarioKey) : Option Record :=
  summary.results.find? fun record => record.key = key

/-- The final records with an outcome. -/
def withStatus (summary : Summary) (status : Status) : List Record :=
  summary.results.filter fun record => record.status = status

end Summary

end Acceptance
