import Acceptance.Status

/-!
# Stages of a run

The stages that the run of a scenario goes through. A retry leads back to the first one.
-/

namespace Acceptance

/-- What is being done for a scenario. -/
inductive Stage
  | preparing
  | beforeHooks
  | background
  | steps
  | deciding
  | retrying
  | finalized (status : Status)
deriving DecidableEq, Inhabited

/-- A stage as text. -/
def Stage.toText : Stage → String
  | preparing => "init"
  | beforeHooks => "running before hooks"
  | background => "running background"
  | steps => "running steps"
  | deciding => "deciding"
  | retrying => "retrying"
  | finalized status => "finalized (" ++ status.toText ++ ")"

end Acceptance
