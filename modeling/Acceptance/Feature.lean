import Acceptance.Table

/-!
# Features

The documents that are run: a feature holds scenarios, a scenario holds steps, and a scenario with
examples is a template for one scenario per example row.
-/

namespace Acceptance

/-- One step of a scenario, with the table and the doc string attached to it. -/
structure Step where
  keyword : String := ""
  text : String := ""
  table : Option Table := none
  docString : Option String := none
deriving DecidableEq, Inhabited

/-- Steps that run before those of every scenario in their scope. -/
structure Background where
  name : String := ""
  steps : List Step := []
deriving DecidableEq, Inhabited

/-- Rows of values for the placeholders of a template. With an external name, headers and rows come
from the source of examples instead. -/
structure Examples where
  headers : List String := []
  rows : List (List String) := []
  tags : List String := []
  external : Option String := none
deriving DecidableEq, Inhabited

/-- A scenario, or a template when it has examples. -/
structure Scenario where
  name : String := ""
  tags : List String := []
  steps : List Step := []
  background : Option Background := none
  examples : List Examples := []
deriving DecidableEq, Inhabited

/-- A document of scenarios. -/
structure Feature where
  name : String := ""
  tags : List String := []
  background : Option Background := none
  scenarios : List Scenario := []
  path : Option String := none
deriving DecidableEq, Inhabited

namespace Step

/-- A step with the keyword `Given`. -/
def given (text : String) : Step := { keyword := "Given", text }

/-- A step with the keyword `When`. -/
def «when» (text : String) : Step := { keyword := "When", text }

/-- A step with the keyword `Then`. -/
def «then» (text : String) : Step := { keyword := "Then", text }

/-- The step with a table attached. -/
def withTable (step : Step) (table : Table) : Step := { step with table := some table }

/-- The step with a doc string attached. -/
def withDocString (step : Step) (text : String) : Step := { step with docString := some text }

end Step

namespace Examples

/-- Examples that a source provides under a name. -/
def fromSource (name : String) : Examples := { external := some name }

end Examples

namespace Scenario

/-- Whether the scenario is a template. -/
def isTemplate (scenario : Scenario) : Bool := !scenario.examples.isEmpty

/-- The scenario with one more tag. -/
def addTag (scenario : Scenario) (tag : String) : Scenario :=
  { scenario with tags := scenario.tags ++ [tag] }

/-- The scenario with one more step. -/
def addStep (scenario : Scenario) (step : Step) : Scenario :=
  { scenario with steps := scenario.steps ++ [step] }

/-- The scenario with one more block of examples. -/
def addExamples (scenario : Scenario) (examples : Examples) : Scenario :=
  { scenario with examples := scenario.examples ++ [examples] }

/-- The steps of the scenario's own background. -/
def backgroundSteps (scenario : Scenario) : List Step :=
  (scenario.background.map Background.steps).getD []

end Scenario

namespace Feature

/-- The feature with one more tag. -/
def addTag (feature : Feature) (tag : String) : Feature :=
  { feature with tags := feature.tags ++ [tag] }

/-- The feature with one more scenario. -/
def addScenario (feature : Feature) (scenario : Scenario) : Feature :=
  { feature with scenarios := feature.scenarios ++ [scenario] }

/-- The feature with an unnamed background of the given steps in place of any earlier one. -/
def setBackground (feature : Feature) (steps : List Step) : Feature :=
  { feature with background := some { steps } }

/-- The steps of the feature's background. -/
def backgroundSteps (feature : Feature) : List Step :=
  (feature.background.map Background.steps).getD []

/-- The number of steps in the scenarios, those of backgrounds left out. -/
def countSteps (feature : Feature) : Nat :=
  (feature.scenarios.flatMap Scenario.steps).length

end Feature

end Acceptance
