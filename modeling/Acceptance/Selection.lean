import Acceptance.Expansion
import Acceptance.Options

/-!
# Selections

The instances of a feature that a run is about: its scenarios are expanded, then the filters are
applied.
-/

namespace Acceptance

/-- The headers that a template refers to. -/
structure UsedColumns where
  feature : String
  template : String
  columns : List String
deriving DecidableEq, Inhabited

/-- The instances of a feature that pass the filters, the templates that cannot be expanded but pass
them as they stand, and what was noticed on the way. -/
structure Selection where
  instances : List Instance := []
  failed : List (Instance × ExamplesError) := []
  warnings : List ExpansionWarning := []
  usedColumns : List UsedColumns := []
deriving Inhabited

namespace Selection

/-- One selection after another. -/
def append (left right : Selection) : Selection where
  instances := left.instances ++ right.instances
  failed := left.failed ++ right.failed
  warnings := left.warnings ++ right.warnings
  usedColumns := left.usedColumns ++ right.usedColumns

/-- The selection from a scenario of a feature. -/
def ofScenario (options : Options) (source : Option ExamplesSource) (feature : Feature)
    (scenario : Scenario) : Selection :=
  match Expansion.expand source feature scenario with
  | .ok expansion =>
    { instances := expansion.instances.filter options.selects
      warnings := expansion.warnings
      usedColumns :=
        if scenario.isTemplate then [⟨feature.name, scenario.name, expansion.usedColumns⟩] else [] }
  | .error error =>
    let plain := Instance.plain feature scenario
    { failed := if options.selects plain then [(plain, error)] else [] }

/-- The selection from a feature, its scenarios in order. -/
def ofFeature (options : Options) (source : Option ExamplesSource) (feature : Feature) : Selection :=
  feature.scenarios.foldl
    (fun selection scenario => selection.append (ofScenario options source feature scenario)) {}

end Selection

end Acceptance
