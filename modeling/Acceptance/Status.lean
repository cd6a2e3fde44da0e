/-!
# Outcomes

How a step or a scenario ended.
-/

namespace Acceptance

/-- How a step or a scenario ended. What was never run is skipped. -/
inductive Status
  | passed
  | failed
  | skipped
deriving DecidableEq, Inhabited

namespace Status

/-- The name of an outcome. -/
def toText : Status → String
  | passed => "passed"
  | failed => "failed"
  | skipped => "skipped"

/-- The outcome of what ends in an error or not. -/
def ofError {α : Type} : Option α → Status
  | none => passed
  | some _ => failed

end Status

end Acceptance
