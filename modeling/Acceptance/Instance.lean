import Acceptance.Feature

/-!
# Scenario instances

A scenario as it is run: its name, tags and steps with everything that its feature adds to them. A
template gives one instance for each example row.
-/

namespace Acceptance

/-- What identifies an instance in a report. The attempts of an instance share it. -/
structure ScenarioKey where
  feature : String
  scenario : String
deriving DecidableEq, Inhabited

/-- The key as text. -/
def ScenarioKey.toText (key : ScenarioKey) : String := key.feature ++ ": " ++ key.scenario

/-- A scenario that is ready to run. The iteration counts the rows of a template from one, where it
has more than one. -/
structure Instance where
  feature : String
  template : String
  name : String
  iteration : Option Nat
  tags : List String
  background : List Step
  steps : List Step
deriving DecidableEq, Inhabited

namespace Instance

/-- A scenario as it stands: tags of the feature before its own, steps of the feature's background
before those of its own background. -/
def plain (feature : Feature) (scenario : Scenario) : Instance where
  feature := feature.name
  template := scenario.name
  name := scenario.name
  iteration := none
  tags := feature.tags ++ scenario.tags
  background := feature.backgroundSteps ++ scenario.backgroundSteps
  steps := scenario.steps

/-- The key of an instance. -/
def key (instance_ : Instance) : ScenarioKey := ⟨instance_.feature, instance_.name⟩

/-- All steps in the order in which they run, each with whether it belongs to the background. -/
def allSteps (instance_ : Instance) : List (Step × Bool) :=
  instance_.background.map (·, true) ++ instance_.steps.map (·, false)

/-- The number of steps. -/
def size (instance_ : Instance) : Nat := instance_.background.length + instance_.steps.length

end Instance

end Acceptance
