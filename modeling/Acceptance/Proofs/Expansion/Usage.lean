import Acceptance.Proofs.Expansion.Cell

/-!
# Used columns

While the rows of a template are filled in one after another, the headers that get a value are noted. What is
noted does not depend on the values: in the end a header has been noted if a text of the template refers to it
and a row has a cell for it. So the used columns can be read off the texts and the headers.
-/

namespace Acceptance.Expansion

/-- A text of a scenario in which placeholders may stand: its name, or the text, a table cell or the doc
string of a step. -/
inductive HasText (scenario : Scenario) : String → Prop
  | name : HasText scenario scenario.name
  | text {step : Step} (hstep : step ∈ scenario.steps) : HasText scenario step.text
  | cell {step : Step} {table : Table} {row : List String} {cell : String} (hstep : step ∈ scenario.steps)
      (htable : step.table = some table) (hrow : row ∈ table.raw) (hcell : cell ∈ row) :
      HasText scenario cell
  | docString {step : Step} {text : String} (hstep : step ∈ scenario.steps)
      (htext : step.docString = some text) : HasText scenario text

/-- A text of a scenario is cut at a token with the name of the header. -/
def RefersTo (scenario : Scenario) (header : String) : Prop :=
  ∃ text cut front, HasText scenario text ∧ Delimiters.angle.IsCut text.toList cut ∧
    (front, header.toList) ∈ cut.tokens

/-- Columns are those of some blocks that a scenario uses: each once, in the order in which their headers
first occur in the blocks, and exactly those that the scenario refers to, as far as their block has a row. -/
structure UsesColumns (scenario : Scenario) (blocks : List Block) (columns : List String) : Prop where
  nodup : columns.Nodup
  order : columns.Pairwise fun first second =>
    (blocks.flatMap Block.headers).idxOf first < (blocks.flatMap Block.headers).idxOf second
  mem : ∀ header, header ∈ columns ↔
    RefersTo scenario header ∧ ∃ block ∈ blocks, block.rows ≠ [] ∧ header ∈ block.headers
  mem_of_rows : (∀ block ∈ blocks, block.rows ≠ []) →
    ∀ header, header ∈ columns ↔ header ∈ blocks.flatMap Block.headers ∧ RefersTo scenario header

/-! ## Texts -/

section Texts

variable {scenario : Scenario} {step : Step} {text header : String}

theorem mem_tableCells :
    text ∈ tableCells step ↔ ∃ table, step.table = some table ∧ ∃ row ∈ table.raw, text ∈ row := by
  cases htable : step.table <;> simp [tableCells, htable]

theorem mem_textsOf : text ∈ textsOf scenario ↔ HasText scenario text := by
  simp only [textsOf, List.mem_cons, List.mem_flatMap, List.mem_append, mem_tableCells, Option.mem_toList]
  constructor
  · rintro (rfl | ⟨step, hstep, rfl | ⟨table, htable, row, hrow, hcell⟩ | htext⟩)
    · exact .name
    · exact .text hstep
    · exact .cell hstep htable hrow hcell
    · exact .docString hstep htext
  · rintro (_ | hstep | ⟨hstep, htable, hrow, hcell⟩ | ⟨hstep, htext⟩)
    · exact .inl rfl
    · exact .inr ⟨_, hstep, .inl rfl⟩
    · exact .inr ⟨_, hstep, .inr (.inl ⟨_, htable, _, hrow, hcell⟩)⟩
    · exact .inr ⟨_, hstep, .inr (.inr htext)⟩

theorem refersTo_iff :
    RefersTo scenario header ↔ ∃ text ∈ textsOf scenario, header ∈ Delimiters.angle.names text := by
  simp only [RefersTo, mem_textsOf, Delimiters.mem_names_iff]
  constructor
  · rintro ⟨text, cut, front, htext, hcut, hmem⟩
    exact ⟨text, htext, cut, front, hcut, hmem⟩
  · rintro ⟨text, htext, cut, front, hcut, hmem⟩
    exact ⟨text, cut, front, htext, hcut, hmem⟩

end Texts

/-! ## What is noted -/

section Notes

variable {used names more : List String} {name : String}

theorem mem_addName {other : String} : name ∈ addName names other ↔ name ∈ names ∨ name = other := by
  by_cases h : other ∈ names
  · have hmem : name = other → name ∈ names := fun heq => heq ▸ h
    simpa [addName, h] using hmem
  · simp [addName, h]

/-- What is noted along a list has been noted before or is noted for one of its items. -/
theorem mem_foldl_iff {α : Type} {f : List String → α → List String} {p : α → Prop}
    (hf : ∀ used item, name ∈ f used item ↔ name ∈ used ∨ p item) (items : List α) :
    name ∈ items.foldl f used ↔ name ∈ used ∨ ∃ item ∈ items, p item := by
  induction items generalizing used with
  | nil => simp
  | cons item items ih => simp [ih, hf, or_assoc]

theorem mem_foldl_addName : name ∈ more.foldl addName names ↔ name ∈ names ∨ name ∈ more := by
  rw [mem_foldl_iff (f := addName) fun _ _ => mem_addName]
  simp

theorem nodup_addName (h : names.Nodup) (name : String) : (addName names name).Nodup := by
  by_cases hmem : name ∈ names
  · simpa [addName, hmem] using h
  · simpa [addName, hmem, List.nodup_append] using ⟨h, fun other hother heq => hmem (heq ▸ hother)⟩

theorem nodup_foldl_addName (h : names.Nodup) (more : List String) : (more.foldl addName names).Nodup := by
  induction more generalizing names with
  | nil => exact h
  | cons name more ih => exact ih (nodup_addName h name)

theorem filter_concat (p : String → Bool) (names : List String) (last : String) :
    ((names ++ [last]).filter p).foldl addName [] =
      if p last = true then addName ((names.filter p).foldl addName []) last
      else (names.filter p).foldl addName [] := by
  by_cases hp : p last = true <;> simp [hp]

/-- Names that are added one after another stay in the order in which they first occur, also if some of them
are left out. -/
theorem pairwise_idxOf_foldl_addName (p : String → Bool) (names : List String) :
    ((names.filter p).foldl addName []).Pairwise fun first second =>
      names.idxOf first < names.idxOf second := by
  induction names using List.reverseRecOn with
  | nil => exact .nil
  | append_singleton names last ih =>
      have hkept : ∀ name, name ∈ (names.filter p).foldl addName [] ↔ name ∈ names ∧ p name = true := by
        simp [mem_foldl_addName]
      -- The names that were there before keep their positions.
      have hbefore : ((names.filter p).foldl addName []).Pairwise fun first second =>
          (names ++ [last]).idxOf first < (names ++ [last]).idxOf second := by
        refine ih.imp_of_mem ?_
        intro first second hfirst hsecond hlt
        rwa [List.idxOf_append_of_mem ((hkept _).mp hfirst).1,
          List.idxOf_append_of_mem ((hkept _).mp hsecond).1]
      rw [filter_concat]
      by_cases hp : p last = true
      · by_cases hold : last ∈ names
        · have hmem : last ∈ (names.filter p).foldl addName [] := (hkept _).mpr ⟨hold, hp⟩
          simpa [hp, addName, hmem] using hbefore
        · have hnew : last ∉ (names.filter p).foldl addName [] := fun hmem => hold ((hkept _).mp hmem).1
          have hlast : ∀ first ∈ (names.filter p).foldl addName [],
              (names ++ [last]).idxOf first < (names ++ [last]).idxOf last := by
            intro first hfirst
            have hmem := ((hkept _).mp hfirst).1
            rw [List.idxOf_append_of_mem hmem, List.idxOf_append_of_notMem hold]
            exact Nat.lt_of_lt_of_le (List.idxOf_lt_length_of_mem hmem) (Nat.le_add_right _ _)
          simpa [hp, addName, hnew, List.pairwise_append] using ⟨hbefore, hlast⟩
      · simpa [hp] using hbefore

theorem mem_noteUsed {values : Bindings} {text : String} :
    name ∈ noteUsed values used text ↔
      name ∈ used ∨ name ∈ Delimiters.angle.names text ∧ (values.get? name).isSome = true := by
  rw [noteUsed, mem_foldl_addName, List.mem_filter]

theorem mem_noteRow {scenario : Scenario} {row : NumberedRow} :
    name ∈ noteRow scenario used row ↔
      name ∈ used ∨ RefersTo scenario name ∧
        ((rowValues row.block.headers row.row).get? name).isSome = true := by
  rw [noteRow, mem_foldl_iff (f := noteUsed _) fun _ _ => mem_noteUsed, refersTo_iff]
  simp only [← and_assoc, exists_and_right]

end Notes

/-! ## Used columns -/

section Columns

variable {source : Option ExamplesSource} {feature : Feature} {scenario : Scenario} {blocks : List Block}

theorem exists_numberRows {p : Block → List String → Prop} {first : Nat} :
    (∃ row ∈ numberRows first blocks, p row.block row.row) ↔
      ∃ block ∈ blocks, ∃ row ∈ block.rows, p block row := by
  have hrows : (numberRows first blocks).map (fun row => (row.block, row.row)) = rowsOf blocks := by
    rw [numberRows_eq, List.map_map]
    exact List.zipIdx_map_fst first _
  constructor
  · rintro ⟨row, hrow, hp⟩
    have hmem : (row.block, row.row) ∈ rowsOf blocks := hrows ▸ List.mem_map_of_mem hrow
    obtain ⟨hblock, hcells⟩ := mem_rowsOf.mp hmem
    exact ⟨_, hblock, _, hcells, hp⟩
  · rintro ⟨block, hblock, cells, hcells, hp⟩
    have hmem : (block, cells) ∈ rowsOf blocks := mem_rowsOf.mpr ⟨hblock, hcells⟩
    rw [← hrows] at hmem
    obtain ⟨row, hrow, heq⟩ := List.mem_map.mp hmem
    cases heq
    exact ⟨row, hrow, hp⟩

/-- A header is noted if the scenario refers to it and a row has a cell for it, whatever is in the cell. -/
theorem mem_foldl_noteRow (hfits : ∀ block ∈ blocks, ∀ row ∈ block.rows, row.length = block.headers.length)
    {header : String} :
    header ∈ (numberRows 1 blocks).foldl (noteRow scenario) [] ↔
      RefersTo scenario header ∧ ∃ block ∈ blocks, block.rows ≠ [] ∧ header ∈ block.headers := by
  have hcell : ∀ block ∈ blocks, ∀ row ∈ block.rows,
      (((rowValues block.headers row).get? header).isSome = true ↔ header ∈ block.headers) := by
    intro block hblock row hrow
    rw [← not_iff_not, Bool.not_eq_true, Option.isSome_eq_false_iff, Option.isNone_iff_eq_none,
      get?_rowValues_eq_none (hfits block hblock row hrow)]
  rw [mem_foldl_iff (f := noteRow scenario) fun _ _ => mem_noteRow]
  rw [or_iff_right List.not_mem_nil,
    exists_numberRows (p := fun block row =>
      RefersTo scenario header ∧ ((rowValues block.headers row).get? header).isSome = true)]
  constructor
  · rintro ⟨block, hblock, row, hrow, hrefers, hsome⟩
    exact ⟨hrefers, block, hblock, List.ne_nil_of_mem hrow, (hcell block hblock row hrow).mp hsome⟩
  · rintro ⟨hrefers, block, hblock, hrows, hheader⟩
    obtain ⟨row, hrow⟩ := List.exists_mem_of_ne_nil _ hrows
    exact ⟨block, hblock, row, hrow, hrefers, (hcell block hblock row hrow).mpr hheader⟩

theorem usesColumns_usedColumnsOf
    (hfits : ∀ block ∈ blocks, ∀ row ∈ block.rows, row.length = block.headers.length) :
    UsesColumns scenario blocks (usedColumnsOf scenario blocks) := by
  have hmem : ∀ header, header ∈ usedColumnsOf scenario blocks ↔
      RefersTo scenario header ∧ ∃ block ∈ blocks, block.rows ≠ [] ∧ header ∈ block.headers := by
    intro header
    simp only [usedColumnsOf, mem_foldl_addName, List.mem_filter, List.contains_iff_mem,
      mem_foldl_noteRow hfits, List.mem_flatMap, List.not_mem_nil, false_or]
    refine and_iff_right_of_imp ?_
    rintro ⟨_, block, hblock, _, hheader⟩
    exact ⟨block, hblock, hheader⟩
  refine ⟨nodup_foldl_addName List.nodup_nil _, pairwise_idxOf_foldl_addName _ _, hmem, ?_⟩
  intro hrows header
  rw [hmem, and_comm, List.mem_flatMap]
  refine and_congr_left fun _ => exists_congr fun block => and_congr_right fun hblock => ?_
  exact and_iff_right (hrows block hblock)

theorem usedColumns_ofBlocks :
    (ofBlocks (.plain feature scenario) scenario blocks).usedColumns = usedColumnsOf scenario blocks := by
  unfold ofBlocks
  dsimp only
  split
  next hempty =>
    have hnone : numberRows 1 blocks = [] := List.isEmpty_iff.mp hempty
    have hunused : (blocks.flatMap Block.headers).filter ([] : List String).contains = [] :=
      List.filter_eq_nil_iff.mpr (by simp)
    rw [usedColumnsOf, hnone, List.foldl_nil, hunused]
    rfl
  next => rfl

/-- The used columns of a template are the headers that its texts refer to. They depend neither on what is in
the cells nor on how many rows there are, as long as there are any. -/
theorem usedColumns_referred (source : Option ExamplesSource) (feature : Feature) (scenario : Scenario)
    (expansion : Expansion) (htemplate : scenario.isTemplate = true)
    (hexpand : expand source feature scenario = .ok expansion) :
    ∃ blocks, List.Forall₂ (Resolved source) scenario.examples blocks ∧
      UsesColumns scenario blocks expansion.usedColumns := by
  obtain ⟨blocks, hblocks, rfl⟩ := exists_blocks htemplate hexpand
  refine ⟨blocks, hblocks, ?_⟩
  rw [usedColumns_ofBlocks]
  apply usesColumns_usedColumnsOf
  intro block hblock row hrow
  exact length_eq_of_resolved hblocks hblock hrow

/-- A template that refers to a header in its name and in a table, to one in a doc string, and to another one
that is overlooked. One of the headers is in both blocks, and holds itself in a row. -/
def sorting : Scenario where
  name := "sort by <kind>"
  steps := [{ Step.when "I choose <order>" with
    table := some ⟨[["<kind>", "<colour>"]]⟩, docString := some "<size> of <<unit>" }]
  examples := [{ headers := ["size", "unit", "kind"], rows := [["1", "m", "kind"]] },
    { headers := ["kind", "colour", "weight"], rows := [["b", "red", "2"], ["c", "blue", "3"]] }]

/-- What the template is expanded to. -/
def sorted : Expansion :=
  ofBlocks (.plain { name := "Lists" } sorting) sorting
    [⟨["size", "unit", "kind"], [["1", "m", "kind"]], []⟩,
      ⟨["kind", "colour", "weight"], [["b", "red", "2"], ["c", "blue", "3"]], []⟩]

theorem usedColumns_referred_sorting :
    expand none { name := "Lists" } sorting = .ok sorted ∧
      sorted.usedColumns = ["size", "kind", "colour"] ∧
      ∃ blocks, List.Forall₂ (Resolved none) sorting.examples blocks ∧
        UsesColumns sorting blocks sorted.usedColumns ∧ (∀ block ∈ blocks, block.rows ≠ []) ∧
        ∀ header, header ∈ sorted.usedColumns ↔
          header ∈ blocks.flatMap Block.headers ∧ RefersTo sorting header := by
  have hexpand : expand none { name := "Lists" } sorting = .ok sorted := rfl
  obtain ⟨blocks, hblocks, huses⟩ := usedColumns_referred none _ sorting sorted rfl hexpand
  have hrows : ∀ block ∈ blocks, block.rows ≠ [] := by
    -- No block is external, so the rows are those that the template is written with.
    rcases hblocks with _ | ⟨hfirst, _ | ⟨hsecond, _ | _⟩⟩
    obtain ⟨_, hdata, _, hfirst⟩ := hfirst.data
    cases hdata
    obtain ⟨_, hdata, _, hsecond⟩ := hsecond.data
    cases hdata
    simp [← hfirst, ← hsecond]
  exact ⟨hexpand, by decide +kernel, blocks, hblocks, huses, hrows, huses.mem_of_rows hrows⟩

end Columns

end Acceptance.Expansion
