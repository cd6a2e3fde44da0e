import Acceptance.Proofs.Expansion.Placeholder
import Acceptance.Proofs.Substitution.Cut

/-!
# Cells of examples

What a row puts in the place of a header is its cell in the last column of that header. A cell that holds
nothing but its own header is withheld, so that no header gets into a text as data. Each such cell has a
warning of its own, whatever becomes of its value.
-/

namespace Acceptance.Expansion

/-! ## Cells that hold their headers -/

/-- A cell holds its own header: it is not blank, and both are the same up to case and to the blanks around
them. -/
def HoldsHeader (header cell : String) : Prop :=
  Text.trim cell.toList ≠ [] ∧
    Unicode.lowerCase (Text.trim cell.toList) = Unicode.lowerCase (Text.trim header.toList)

instance (header cell : String) : Decidable (HoldsHeader header cell) := inferInstanceAs (Decidable (_ ∧ _))

/-- A row has a cell under a header. Of several columns with this header the cell is in the last. -/
def HasCell (headers row : List String) (header cell : String) : Prop :=
  ∃ before after, headers.zip row = before ++ (header, cell) :: after ∧ header ∉ after.map Prod.fst

/-- The values that a row gives to headers: to each of them its cell, or nothing where the cell holds the
header. So no header has a value that holds it. -/
structure GivesCells (headers row : List String) (values : Bindings) : Prop where
  exists_cell : ∀ header ∈ headers, ∃ cell, HasCell headers row header cell
  given : ∀ header cell, HasCell headers row header cell → ¬ HoldsHeader header cell →
    values.get? header = some cell
  withheld : ∀ header cell, HasCell headers row header cell → HoldsHeader header cell →
    values.get? header = some ""
  unknown : ∀ header, header ∉ headers → values.get? header = none
  never : ∀ header value, values.get? header = some value → ¬ HoldsHeader header value

/-- The texts of an instance are those of its template with values in the place of the tokens that they are
cut at. -/
def IsFilledWith (scenario : Scenario) (values : Bindings) (total number : Nat) (instance_ : Instance) :
    Prop :=
  ∃ replace : String → String,
    (∀ text cut, Delimiters.angle.IsCut text.toList cut →
      (replace text).toList = cut.filled (Delimiters.angle.valueOrWritten values)) ∧
    instance_.name = replace scenario.name ++ suffix total number ∧
    instance_.steps = scenario.steps.map (Step.mapTexts replace)

/-- All cells of some blocks, block by block, row by row and from left to right. Each is listed with the
number of its row, counted over all blocks from one, and with its header. -/
def cellsOf (blocks : List Block) : List (Nat × String × String) :=
  ((rowsOf blocks).zipIdx 1).flatMap fun row => (row.1.1.headers.zip row.1.2).map (row.2, ·)

section Values

variable {headers row : List String} {header cell value : String}

theorem equalsHeader_iff : equalsHeader cell header = true ↔ HoldsHeader header cell := by
  simp [equalsHeader, HoldsHeader]

theorem not_holdsHeader_empty (header : String) : ¬ HoldsHeader header "" := by
  rintro ⟨hblank, _⟩
  exact hblank rfl

theorem cellValue_of_holds (h : HoldsHeader header cell) : cellValue header cell = "" := by
  simp [cellValue, equalsHeader_iff, h]

theorem cellValue_of_not_holds (h : ¬ HoldsHeader header cell) : cellValue header cell = cell := by
  simp [cellValue, equalsHeader_iff, h]

theorem not_holdsHeader_cellValue (header cell : String) : ¬ HoldsHeader header (cellValue header cell) := by
  by_cases h : HoldsHeader header cell
  · rw [cellValue_of_holds h]
    exact not_holdsHeader_empty header
  · rwa [cellValue_of_not_holds h]

theorem exists_hasCell (hfits : row.length = headers.length) (hheader : header ∈ headers) :
    ∃ cell, HasCell headers row header cell := by
  induction headers generalizing row with
  | nil => cases hheader
  | cons first headers ih =>
      cases row with
      | nil => cases hfits
      | cons content row =>
          by_cases hlater : header ∈ headers
          · obtain ⟨cell, before, after, hsplit, hlast⟩ := ih (Nat.succ.inj hfits) hlater
            exact ⟨cell, (first, content) :: before, after, by simp [hsplit], hlast⟩
          · obtain rfl : header = first := (List.mem_cons.mp hheader).resolve_right hlater
            refine ⟨content, [], headers.zip row, rfl, fun hmem => hlater ?_⟩
            obtain ⟨column, hcolumn, rfl⟩ := List.mem_map.mp hmem
            exact (List.of_mem_zip hcolumn).1

theorem get?_rowValues_of_hasCell (hcell : HasCell headers row header cell) :
    (rowValues headers row).get? header = some (cellValue header cell) := by
  obtain ⟨before, after, hsplit, hlast⟩ := hcell
  apply Bindings.get?_ofPairs_of_last
  · rw [hsplit, List.map_append, List.map_cons]
  · simpa [Function.comp_def] using hlast

theorem get?_rowValues_eq_none (hfits : row.length = headers.length) :
    (rowValues headers row).get? header = none ↔ header ∉ headers := by
  have hcolumns : rowValues headers row = .ofPairs (columnsOf headers row) := rfl
  rw [hcolumns, Bindings.get?_ofPairs_eq_none, map_fst_columnsOf hfits]

theorem givesCells_rowValues (hfits : row.length = headers.length) :
    GivesCells headers row (rowValues headers row) where
  exists_cell := by
    intro header hheader
    exact exists_hasCell hfits hheader
  given := by
    intro header cell hcell hholds
    rw [get?_rowValues_of_hasCell hcell, cellValue_of_not_holds hholds]
  withheld := by
    intro header cell hcell hholds
    rw [get?_rowValues_of_hasCell hcell, cellValue_of_holds hholds]
  unknown := by
    intro header hheader
    exact (get?_rowValues_eq_none hfits).mpr hheader
  never := by
    intro header value hvalue
    by_cases hheader : header ∈ headers
    · obtain ⟨cell, hcell⟩ := exists_hasCell hfits hheader
      rw [get?_rowValues_of_hasCell hcell] at hvalue
      obtain rfl := Option.some.inj hvalue
      exact not_holdsHeader_cellValue header cell
    · rw [(get?_rowValues_eq_none hfits).mpr hheader] at hvalue
      cases hvalue

end Values

/-! ## Instances and warnings -/

section Expand

variable {feature : Feature} {scenario : Scenario} {blocks : List Block}

theorem isFilledWith_instanceOf (total number : Nat) (block : Block) (row : List String) :
    IsFilledWith scenario (rowValues block.headers row) total number
      (instanceOf (.plain feature scenario) scenario total ⟨block, row, number⟩) := by
  refine ⟨interpolate (rowValues block.headers row), ?_, (isRow_instanceOf _ _ _ _).name_eq, rfl⟩
  exact (Delimiters.substitutesAtOnce_substitute .angle).replaced (rowValues block.headers row)

theorem rowWarnings_eq (name : String) (number : Nat) (headers row : List String) :
    rowWarnings name number headers row =
      ((headers.zip row).filter fun column => HoldsHeader column.1 column.2).map fun column =>
        .headerAsValue name number column.1 := by
  rw [rowWarnings]
  induction headers.zip row with
  | nil => rfl
  | cons column columns ih =>
      by_cases h : HoldsHeader column.1 column.2
      · simpa [equalsHeader_iff, h] using ih
      · simpa [equalsHeader_iff, h] using ih

theorem warnings_ofBlocks (hrows : rowsOf blocks ≠ []) :
    (ofBlocks (.plain feature scenario) scenario blocks).warnings =
      ((cellsOf blocks).filter fun cell => HoldsHeader cell.2.1 cell.2.2).map fun cell =>
        .headerAsValue scenario.name cell.1 cell.2.1 := by
  have hsome : ((rowsOf blocks).zipIdx 1).isEmpty = false := by simpa using hrows
  simp only [ofBlocks, numberRows_eq, List.isEmpty_map, hsome, List.flatMap_map, rowWarnings_eq, cellsOf,
    List.filter_flatMap, List.map_flatMap, List.filter_map, List.map_map, Function.comp_def]
  rfl

/-- In each instance of a template a header stands for its cell of the row, and for nothing where the cell
holds the header, so that a header is never its own value. There is exactly one warning for each such cell,
also if there is only one row, if the header occurs in no text, or if a later column has the same header. -/
theorem expand_withholds_headers (source : Option ExamplesSource) (feature : Feature) (scenario : Scenario)
    (expansion : Expansion) (htemplate : scenario.isTemplate = true)
    (hexpand : expand source feature scenario = .ok expansion) (hrows : expansion.instances ≠ []) :
    ∃ blocks, List.Forall₂ (Resolved source) scenario.examples blocks ∧
      List.Forall₂
        (fun row instance_ => ∃ values, GivesCells row.1.1.headers row.1.2 values ∧
          IsFilledWith scenario values (rowsOf blocks).length row.2 instance_)
        ((rowsOf blocks).zipIdx 1) expansion.instances ∧
      expansion.warnings =
        ((cellsOf blocks).filter fun cell => HoldsHeader cell.2.1 cell.2.2).map fun cell =>
          .headerAsValue scenario.name cell.1 cell.2.1 := by
  obtain ⟨blocks, hblocks, rfl⟩ := exists_blocks htemplate hexpand
  refine ⟨blocks, hblocks, ?_, ?_⟩
  · rw [instances_ofBlocks, List.forall₂_map_right_iff, List.forall₂_same]
    rintro ⟨⟨block, row⟩, number⟩ hrow
    obtain ⟨hblock, hcells⟩ := mem_rowsOf.mp (List.fst_mem_of_mem_zipIdx hrow)
    have hfits : row.length = block.headers.length := length_eq_of_resolved hblocks hblock hcells
    exact ⟨_, givesCells_rowValues hfits, isFilledWith_instanceOf _ _ _ _⟩
  · apply warnings_ofBlocks
    intro hnone
    apply hrows
    rw [instances_ofBlocks, hnone]
    rfl

/-- A template in whose rows three cells hold their headers: one that no text refers to, one in the last of two
columns with the same header, and one in the first of them. -/
def echoes : Scenario where
  name := "search <term>"
  steps := [.when "I search for <term>"]
  examples := [{ headers := ["term", "count"], rows := [["go", "COUNT"]] },
    { headers := ["term", "term"], rows := [["zig", " Term "], ["term", "zag"]] }]

/-- What the template is expanded to. -/
def echoed : Expansion :=
  ofBlocks (.plain { name := "Search" } echoes) echoes
    [⟨["term", "count"], [["go", "COUNT"]], []⟩,
      ⟨["term", "term"], [["zig", " Term "], ["term", "zag"]], []⟩]

theorem expand_withholds_headers_echoes :
    expand none { name := "Search" } echoes = .ok echoed ∧
      echoed.instances.map Instance.steps =
        [[.when "I search for go"], [.when "I search for "], [.when "I search for zag"]] ∧
      ∃ blocks, List.Forall₂ (Resolved none) echoes.examples blocks ∧
        List.Forall₂
          (fun row instance_ => ∃ values, GivesCells row.1.1.headers row.1.2 values ∧
            IsFilledWith echoes values (rowsOf blocks).length row.2 instance_)
          ((rowsOf blocks).zipIdx 1) echoed.instances ∧
        echoed.warnings =
          ((cellsOf blocks).filter fun cell => HoldsHeader cell.2.1 cell.2.2).map fun cell =>
            .headerAsValue echoes.name cell.1 cell.2.1 := by
  have hexpand : expand none { name := "Search" } echoes = .ok echoed := rfl
  have hsteps : echoed.instances.map Instance.steps =
      [[.when "I search for go"], [.when "I search for "], [.when "I search for zag"]] := by
    decide +kernel
  have hrows : echoed.instances ≠ [] := by
    intro hnone
    rw [hnone] at hsteps
    cases hsteps
  exact ⟨hexpand, hsteps, expand_withholds_headers none _ echoes echoed rfl hexpand hrows⟩

/-- The rows are counted over both blocks. -/
example : echoed.warnings = [.headerAsValue "search <term>" 1 "count",
    .headerAsValue "search <term>" 2 "term", .headerAsValue "search <term>" 3 "term"] := by
  decide +kernel

end Expand

end Acceptance.Expansion
