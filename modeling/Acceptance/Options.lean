import Acceptance.Duration
import Acceptance.Instance
import Acceptance.Tag.Expression

/-!
# Options of a run

What is run of the loaded features, and how.
-/

namespace Acceptance

/-- The options of a run. -/
structure Options where
  paths : List String := []
  includeTags : Option Tag.Expression := none
  excludeTags : Option Tag.Expression := none
  nameFilter : Option String := none
  workers : Nat := 1
  retries : Nat := 0
  retryAfter : Option Duration := none
  stepTimeout : Option Duration := none
  failFast : Bool := false
  dryRun : Bool := false
deriving Inhabited

/-- Whether an instance passes the filters: its tags meet the first condition and not the second one,
and its name holds the given text. -/
def Options.selects (options : Options) (instance_ : Instance) : Bool :=
  options.includeTags.all (·.eval instance_.tags) &&
    !options.excludeTags.any (·.eval instance_.tags) &&
    options.nameFilter.all fun part => Text.occursIn part.toList instance_.name.toList

end Acceptance
