import Acceptance.Examples.Source
import Acceptance.Instance
import Acceptance.Substitution
import Acceptance.Unicode.Lowercase

/-!
# Expansion of templates

A template becomes one instance for each row of its examples. In its name, step texts, table cells
and doc strings every header in angle brackets is replaced by the cell of the row. A cell that equals
its own header is taken for a mistake and replaced by nothing.
-/

namespace Acceptance

/-- Something that is odd about the examples of a template. -/
inductive ExpansionWarning
  | noRows (scenario : String)
  | headerAsValue (scenario : String) (iteration : Nat) (header : String)
deriving DecidableEq, Inhabited

/-- The text of a warning. -/
def ExpansionWarning.toText : ExpansionWarning → String
  | noRows scenario => "Scenario `" ++ scenario ++ "` has no example rows"
  | headerAsValue scenario iteration header =>
    "Scenario `" ++ scenario ++ "` example " ++ toString iteration ++ ": value of `" ++ header ++
      "` equals its header, using empty string"

/-- The instances of a scenario, the headers that its texts refer to, and the warnings. -/
structure Expansion where
  instances : List Instance := []
  usedColumns : List String := []
  warnings : List ExpansionWarning := []
deriving Inhabited

namespace Expansion

/-- Whether a cell holds the name of its own column, up to case and to blanks around it. -/
def equalsHeader (cell header : String) : Bool :=
  let cell := Text.trim cell.toList
  !cell.isEmpty && Unicode.lowerCase cell == Unicode.lowerCase (Text.trim header.toList)

/-- The value that a cell gives to its header. -/
def cellValue (header cell : String) : String := if equalsHeader cell header then "" else cell

/-- The values of a row under its headers. Of two columns with one name the last counts. -/
def rowValues (headers row : List String) : Bindings :=
  Bindings.ofPairs ((headers.zip row).map fun column => (column.1, cellValue column.1 column.2))

/-- The warnings for the cells of a row that equal their headers. -/
def rowWarnings (scenario : String) (iteration : Nat) (headers row : List String) :
    List ExpansionWarning :=
  (headers.zip row).filterMap fun column =>
    if equalsHeader column.2 column.1 then some (.headerAsValue scenario iteration column.1) else none

/-- Replaces the headers in angle brackets in a text by their values. -/
def interpolate (values : Bindings) (text : String) : String :=
  Delimiters.angle.substitute values.get? text

/-- A step with the headers in its texts replaced. -/
def interpolateStep (values : Bindings) (step : Step) : Step :=
  { step with
    text := interpolate values step.text
    table := step.table.map (Table.mapCells (interpolate values))
    docString := step.docString.map (interpolate values) }

/-- The cells of the table of a step, row by row. -/
def tableCells (step : Step) : List String := (step.table.map fun table => table.raw.flatten).getD []

/-- All texts of a scenario in which headers are replaced, in the order in which they are filled in. -/
def textsOf (scenario : Scenario) : List String :=
  scenario.name ::
    scenario.steps.flatMap fun step => step.text :: (tableCells step ++ step.docString.toList)

/-- Adds a name to some names, unless it is there. -/
def addName (names : List String) (name : String) : List String :=
  if names.contains name then names else names ++ [name]

/-- Adds the names that are replaced by a value when a text is filled in to those that were used before. -/
def noteUsed (values : Bindings) (used : List String) (text : String) : List String :=
  ((Delimiters.angle.names text).filter fun name => (values.get? name).isSome).foldl addName used

/-- A block of examples with headers and rows that fit, and the tags of the block as it is written. -/
structure Block where
  headers : List String
  rows : List (List String)
  tags : List String
deriving DecidableEq

/-- The first row whose number of cells is not the number of headers, the rows being counted from a
number on. -/
def misshapen? (width : Nat) (number : Nat) : List (List String) → Option (Nat × Nat)
  | [] => none
  | row :: rest =>
    if row.length = width then misshapen? width (number + 1) rest else some (number, row.length)

/-- The headers and rows of a block: its own, or those that the source has under its external name.
Every row has to have as many cells as there are headers. -/
def resolveBlock (source : Option ExamplesSource) (scenario : String) (examples : Examples) :
    Except ExamplesError Block := do
  let data ← match examples.external with
    | none => .ok examples
    | some name =>
      match source with
      | none => .error (.noSource name)
      | some load => load name
  match misshapen? data.headers.length 1 data.rows with
  | some (number, cells) =>
    .error <| .shape (examples.external.getD scenario)
      ("row " ++ toString number ++ " has " ++ toString cells ++ " cells, but there are " ++
        toString data.headers.length ++ " headers")
  | none => .ok { headers := data.headers, rows := data.rows, tags := examples.tags }

/-- A row of a block with its number, counted over all blocks. -/
structure NumberedRow where
  block : Block
  row : List String
  iteration : Nat

/-- The rows of some blocks in order, counted from a number on. -/
def numberRows (first : Nat) : List Block → List NumberedRow
  | [] => []
  | block :: rest =>
    block.rows.mapIdx (fun offset row => ⟨block, row, first + offset⟩) ++
      numberRows (first + block.rows.length) rest

/-- Adds the names that are used when all texts of a scenario are filled in with the values of a row. -/
def noteRow (scenario : Scenario) (used : List String) (row : NumberedRow) : List String :=
  (textsOf scenario).foldl (noteUsed (rowValues row.block.headers row.row)) used

/-- The headers of some blocks that were used while the rows were filled in one after another, in the
order of the blocks and each once. -/
def usedColumnsOf (scenario : Scenario) (blocks : List Block) : List String :=
  let used := (numberRows 1 blocks).foldl (noteRow scenario) []
  ((blocks.flatMap Block.headers).filter used.contains).foldl addName []

/-- The instance for a row. With more than one row in all, its number is added to the name. -/
def instanceOf (base : Instance) (scenario : Scenario) (total : Nat) (row : NumberedRow) : Instance :=
  let values := rowValues row.block.headers row.row
  let name := interpolate values scenario.name
  { base with
    name :=
      if 1 < total then name ++ " (example " ++ toString row.iteration ++ ")" else name
    iteration := if 1 < total then some row.iteration else none
    tags := base.tags ++ row.block.tags
    steps := scenario.steps.map (interpolateStep values) }

/-- The expansion of a template with given blocks. -/
def ofBlocks (base : Instance) (scenario : Scenario) (blocks : List Block) : Expansion :=
  let rows := numberRows 1 blocks
  if rows.isEmpty then { warnings := [.noRows scenario.name] }
  else
    { instances := rows.map (instanceOf base scenario rows.length)
      usedColumns := usedColumnsOf scenario blocks
      warnings := rows.flatMap fun row =>
        rowWarnings scenario.name row.iteration row.block.headers row.row }

/-- Expands a scenario of a feature. A scenario without examples is its own only instance. The first
block that cannot be had makes the expansion fail. -/
def expand (source : Option ExamplesSource) (feature : Feature) (scenario : Scenario) :
    Except ExamplesError Expansion := do
  let base := Instance.plain feature scenario
  if scenario.isTemplate then
    let blocks ← scenario.examples.mapM (resolveBlock source scenario.name)
    .ok (ofBlocks base scenario blocks)
  else .ok { instances := [base] }

end Expansion

end Acceptance
