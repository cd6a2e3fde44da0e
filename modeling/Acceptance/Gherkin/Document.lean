import Acceptance.Feature
import Acceptance.Text

/-!
# Gherkin documents

A feature as it is written in Gherkin, where scenarios may be grouped in rules, and the feature that
it stands for: the scenarios of rules come behind those outside, each with the tags and the background
of its rule.
-/

namespace Acceptance.Gherkin

/-- A step with its keyword as the line begins with it, and with what is attached to it. -/
structure StepLine where
  keyword : String
  text : String
  docString : Option String := none
  table : Option (List (List String)) := none
deriving DecidableEq, Inhabited

/-- A block of examples. -/
structure ExamplesBlock where
  tags : List String := []
  table : Option (List (List String)) := none
deriving DecidableEq, Inhabited

/-- A scenario or a scenario outline. -/
structure ScenarioBlock where
  name : String
  tags : List String := []
  steps : List StepLine := []
  examples : List ExamplesBlock := []
deriving DecidableEq, Inhabited

/-- A group of scenarios with a background of its own. -/
structure Rule where
  name : String
  tags : List String := []
  background : Option (List StepLine) := none
  scenarios : List ScenarioBlock := []
deriving DecidableEq, Inhabited

/-- A whole document. -/
structure Document where
  name : String
  tags : List String := []
  background : Option (List StepLine) := none
  scenarios : List ScenarioBlock := []
  rules : List Rule := []
deriving DecidableEq, Inhabited

/-- The step that a line stands for. Blanks around its keyword are left out. -/
def StepLine.toStep (line : StepLine) : Step where
  keyword := Text.trimmed line.keyword
  text := line.text
  table := line.table.map Table.mk
  docString := line.docString

/-- The examples that a block stands for: the first row of its table holds the headers. -/
def ExamplesBlock.toExamples (block : ExamplesBlock) : Examples where
  headers := (block.table.getD []).headD []
  rows := (block.table.getD []).tail
  tags := block.tags

/-- The background that some steps stand for. -/
def toBackground (steps : List StepLine) : Background := { steps := steps.map StepLine.toStep }

/-- The scenario that a block outside of all rules stands for. -/
def ScenarioBlock.toScenario (block : ScenarioBlock) : Scenario where
  name := block.name
  tags := block.tags
  steps := block.steps.map StepLine.toStep
  examples := block.examples.map ExamplesBlock.toExamples

/-- The scenarios of a rule, with its tags before their own and with its background. -/
def Rule.toScenarios (rule : Rule) : List Scenario :=
  rule.scenarios.map fun block =>
    { block.toScenario with
      tags := rule.tags ++ block.tags
      background := rule.background.map toBackground }

/-- The feature that a document stands for. -/
def Document.toFeature (document : Document) : Feature where
  name := document.name
  tags := document.tags
  background := document.background.map toBackground
  scenarios :=
    document.scenarios.map ScenarioBlock.toScenario ++ document.rules.flatMap Rule.toScenarios

end Acceptance.Gherkin
