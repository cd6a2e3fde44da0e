import Acceptance.Selection
import Acceptance.Suite

/-!
# Dry runs

The order in which a run would execute the steps of features, and the definitions that it would find
for them. Nothing is executed.
-/

namespace Acceptance.DryRun

/-- A step that would run, with the pattern and location of its definition if it has one. -/
structure StepPlan where
  keyword : String
  text : String
  background : Bool
  definition : Option (Pattern × Location)
deriving DecidableEq

/-- Whether no definition matches the step. -/
def StepPlan.isUndefined (step : StepPlan) : Bool := step.definition.isNone

/-- An instance that would run, or a template that could not be expanded with the reason. -/
structure ScenarioPlan where
  key : ScenarioKey
  steps : List StepPlan
  error : Option String
deriving DecidableEq

/-- The scenarios of a feature that would run. -/
structure FeaturePlan where
  name : String
  scenarios : List ScenarioPlan
deriving DecidableEq

/-- The features that would run. -/
structure Plan where
  features : List FeaturePlan
deriving DecidableEq

/-- Plans a step. -/
def planStep {η : Type} (definitions : Definitions η) (step : Step × Bool) : StepPlan where
  keyword := step.1.keyword
  text := step.1.text
  background := step.2
  definition := (definitions.resolve? step.1.text).map fun found =>
    (found.definition.pattern, found.definition.location)

/-- Plans an instance. -/
def planScenario {η : Type} (definitions : Definitions η) (error : Option String)
    (instance_ : Instance) : ScenarioPlan :=
  { key := instance_.key, steps := instance_.allSteps.map (planStep definitions), error }

/-- Plans a feature: first the templates that cannot be expanded, then the instances. -/
def planFeature {η : Type} (definitions : Definitions η) (options : Options)
    (source : Option ExamplesSource) (feature : Feature) : FeaturePlan :=
  let selection := Selection.ofFeature options source feature
  let failed := selection.failed.map fun template =>
    planScenario definitions (some template.2.toText) template.1
  { name := feature.name
    scenarios := failed ++ selection.instances.map (planScenario definitions none) }

namespace Plan

/-- Plans features. -/
def ofFeatures {η : Type} (definitions : Definitions η) (options : Options)
    (source : Option ExamplesSource) (features : List Feature) : Plan :=
  ⟨features.map (planFeature definitions options source)⟩

/-- The number of planned scenarios. -/
def size (plan : Plan) : Nat := (plan.features.flatMap fun feature => feature.scenarios).length

/-- The planned steps without a definition, each with the scenario that it belongs to. -/
def undefinedSteps (plan : Plan) : List (ScenarioKey × StepPlan) :=
  plan.features.flatMap fun feature =>
    feature.scenarios.flatMap fun scenario =>
      (scenario.steps.filter StepPlan.isUndefined).map (scenario.key, ·)

/-- A planned step as text. -/
def stepText (showLocation : Location → String) (step : StepPlan) : String :=
  "    " ++ Text.trimmed step.keyword ++ " " ++ step.text ++
    match step.definition with
    | some (pattern, location) => "  # " ++ pattern.toText ++ " (" ++ showLocation location ++ ")\n"
    | none => "  # undefined\n"

/-- A planned scenario as text. -/
def scenarioText (showLocation : Location → String) (scenario : ScenarioPlan) : String :=
  "  Scenario: " ++ scenario.key.scenario ++ "\n" ++
    (scenario.error.elim "" fun error => "    # " ++ error ++ "\n") ++
    String.join (scenario.steps.map (stepText showLocation))

/-- The plan as text, locations being shown in a given way. -/
def toTextWith (showLocation : Location → String) (plan : Plan) : String :=
  String.join <| plan.features.map fun feature =>
    "Feature: " ++ feature.name ++ "\n" ++
      String.join (feature.scenarios.map (scenarioText showLocation))

/-- The plan as text. -/
def toText (plan : Plan) : String := plan.toTextWith Location.toText

end Plan

end Acceptance.DryRun
