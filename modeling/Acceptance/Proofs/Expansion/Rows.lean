import Acceptance.Expansion
import Mathlib

/-!
# Rows of examples

A template is expanded row by row. Either every block of its examples can be had and its rows fit its
headers, and then there is one instance for each row of all blocks, or the first block for which this
fails says why. Instances of one template are told apart by the numbers of their rows, whatever the
texts are that the rows put into their names.
-/

namespace Acceptance.Expansion

/-! ## The first that fails -/

theorem exists_first_cons {α : Type} {p : α → Prop} {q : Nat → α → Prop} {first : α} {rest : List α} :
    (∃ before item after, first :: rest = before ++ item :: after ∧
      (∀ earlier ∈ before, p earlier) ∧ q before.length item) ↔
    q 0 first ∨ p first ∧ ∃ before item after, rest = before ++ item :: after ∧
      (∀ earlier ∈ before, p earlier) ∧ q (before.length + 1) item := by
  constructor
  · rintro ⟨before, item, after, heq, hbefore, hitem⟩
    cases before with
    | nil =>
        cases heq
        exact .inl hitem
    | cons other before =>
        cases heq
        obtain ⟨hfirst, hlater⟩ := List.forall_mem_cons.mp hbefore
        exact .inr ⟨hfirst, before, item, after, rfl, hlater, hitem⟩
  · rintro (hfirst | ⟨hfirst, before, item, after, rfl, hbefore, hitem⟩)
    · exact ⟨[], first, rest, rfl, nofun, hfirst⟩
    · exact ⟨first :: before, item, after, rfl, List.forall_mem_cons.mpr ⟨hfirst, hbefore⟩, hitem⟩

/-! ## Blocks -/

section Blocks

variable (source : Option ExamplesSource) (scenario : String) (examples : Examples)

/-- The headers and rows of a block: its own, or those that the source has under its external name. -/
def dataOf : Except ExamplesError Examples :=
  match examples.external, source with
  | none, _ => .ok examples
  | some name, none => .error (.noSource name)
  | some name, some load => load name

/-- A block has headers, and rows with as many cells. It keeps the tags that it is written with. -/
structure Resolved (block : Block) : Prop where
  data : ∃ data, dataOf source examples = .ok data ∧ data.headers = block.headers ∧
    data.rows = block.rows
  fits : ∀ row ∈ block.rows, row.length = block.headers.length
  tags : block.tags = examples.tags

/-- Why a block cannot be had: its source does not give it, or a row does not fit the headers, the first
such row being named. -/
inductive Unresolved : ExamplesError → Prop
  | unavailable {error : ExamplesError} (hdata : dataOf source examples = .error error) :
      Unresolved error
  | misshapen {data : Examples} {before after : List (List String)} {row : List String}
      (hdata : dataOf source examples = .ok data) (hrows : data.rows = before ++ row :: after)
      (hbefore : ∀ earlier ∈ before, earlier.length = data.headers.length)
      (hrow : row.length ≠ data.headers.length) :
      Unresolved (.shape (examples.external.getD scenario)
        ("row " ++ toString (before.length + 1) ++ " has " ++ toString row.length ++
          " cells, but there are " ++ toString data.headers.length ++ " headers"))

variable {source scenario examples}

theorem misshapen?_eq_none {width number : Nat} {rows : List (List String)} :
    misshapen? width number rows = none ↔ ∀ row ∈ rows, row.length = width := by
  induction rows generalizing number with
  | nil => simp [misshapen?]
  | cons row rest ih =>
      rw [misshapen?, List.forall_mem_cons]
      split
      next hrow => rw [ih]; exact (and_iff_right hrow).symm
      next hrow => simp [hrow]

theorem misshapen?_eq_some {width number : Nat} {rows : List (List String)} {found cells : Nat} :
    misshapen? width number rows = some (found, cells) ↔
      ∃ before row after, rows = before ++ row :: after ∧
        (∀ earlier ∈ before, earlier.length = width) ∧ row.length ≠ width ∧
        found = number + before.length ∧ cells = row.length := by
  induction rows generalizing number with
  | nil => simp [misshapen?]
  | cons row rest ih =>
      rw [misshapen?, exists_first_cons (q := fun (count : Nat) (row : List String) =>
        row.length ≠ width ∧ found = number + count ∧ cells = row.length)]
      split
      next hrow =>
        rw [ih]
        simp [hrow, Nat.add_assoc, Nat.add_comm 1]
      next hrow => simp [hrow, eq_comm]

/-- A block is what its data is, with its own tags, once the rows have been found to fit. -/
theorem resolveBlock_eq :
    resolveBlock source scenario examples =
      match dataOf source examples with
      | .error error => .error error
      | .ok data =>
        match misshapen? data.headers.length 1 data.rows with
        | some (number, cells) =>
          .error (.shape (examples.external.getD scenario)
            ("row " ++ toString number ++ " has " ++ toString cells ++ " cells, but there are " ++
              toString data.headers.length ++ " headers"))
        | none => .ok { headers := data.headers, rows := data.rows, tags := examples.tags } := by
  unfold resolveBlock dataOf
  cases examples.external with
  | none => rfl
  | some name =>
      cases source with
      | none => rfl
      | some load =>
          dsimp only
          cases load name <;> rfl

theorem resolveBlock_eq_ok {block : Block} :
    resolveBlock source scenario examples = .ok block ↔ Resolved source examples block := by
  rw [resolveBlock_eq]
  cases hdata : dataOf source examples with
  | error error =>
      constructor
      · nofun
      · rintro ⟨⟨data, hdata', _⟩, _, _⟩
        cases hdata.symm.trans hdata'
  | ok data =>
      dsimp only
      cases hmisshapen : misshapen? data.headers.length 1 data.rows with
      | none =>
          have hfits := misshapen?_eq_none.mp hmisshapen
          constructor
          · intro heq
            cases heq
            exact ⟨⟨data, hdata, rfl, rfl⟩, hfits, rfl⟩
          · rintro ⟨⟨other, hother, hheaders, hrows⟩, _, htags⟩
            cases hdata.symm.trans hother
            rw [hheaders, hrows, ← htags]
      | some found =>
          constructor
          · nofun
          · rintro ⟨⟨other, hother, hheaders, hrows⟩, hfits, _⟩
            cases hdata.symm.trans hother
            rw [← hrows, ← hheaders] at hfits
            rw [misshapen?_eq_none.mpr hfits] at hmisshapen
            cases hmisshapen

theorem resolveBlock_eq_error {error : ExamplesError} :
    resolveBlock source scenario examples = .error error ↔
      Unresolved source scenario examples error := by
  rw [resolveBlock_eq]
  cases hdata : dataOf source examples with
  | error cause =>
      constructor
      · intro heq
        cases heq
        exact .unavailable hdata
      · rintro (hdata' | ⟨hdata', _, _, _⟩)
        · rw [hdata.symm.trans hdata']
        · cases hdata.symm.trans hdata'
  | ok data =>
      dsimp only
      cases hmisshapen : misshapen? data.headers.length 1 data.rows with
      | none =>
          have hfits := misshapen?_eq_none.mp hmisshapen
          constructor
          · nofun
          · rintro (hdata' | ⟨hdata', hrows, _, hrow⟩)
            · cases hdata.symm.trans hdata'
            · cases hdata.symm.trans hdata'
              exact absurd (hfits _ (hrows ▸ List.mem_append_right _ List.mem_cons_self)) hrow
      | some found =>
          obtain ⟨number, cells⟩ := found
          constructor
          · intro heq
            cases heq
            obtain ⟨before, row, after, hrows, hbefore, hrow, rfl, rfl⟩ :=
              misshapen?_eq_some.mp hmisshapen
            rw [Nat.add_comm 1]
            exact .misshapen hdata hrows hbefore hrow
          · rintro (hdata' | ⟨hdata', hrows, hbefore, hrow⟩)
            · cases hdata.symm.trans hdata'
            · cases hdata.symm.trans hdata'
              have hfound := (@misshapen?_eq_some _ 1 _ _ _).mpr
                ⟨_, _, _, hrows, hbefore, hrow, rfl, rfl⟩
              cases hmisshapen.symm.trans hfound
              rw [Nat.add_comm 1]

/-- Every row of a block has as many cells as the block has headers. -/
theorem length_eq_of_resolved {examples : List Examples} {blocks : List Block}
    (hblocks : List.Forall₂ (Resolved source) examples blocks) {block : Block} (hblock : block ∈ blocks)
    {row : List String} (hrow : row ∈ block.rows) : row.length = block.headers.length := by
  induction hblocks with
  | nil => cases hblock
  | cons hresolved _ ih =>
      rcases List.mem_cons.mp hblock with rfl | hmem
      · exact hresolved.fits row hrow
      · exact ih hmem

end Blocks

/-! ## All blocks -/

section All

variable {ε α β : Type} {f : α → Except ε β} {items : List α}

theorem mapM_eq_ok {values : List β} :
    items.mapM f = .ok values ↔ List.Forall₂ (fun item value => f item = .ok value) items values := by
  induction items generalizing values with
  | nil => cases values <;> simp [pure, Except.pure]
  | cons item rest ih =>
      rw [List.mapM_cons]
      cases hitem : f item with
      | error error => cases values <;> simp [bind, Except.bind, hitem]
      | ok value =>
          cases hrest : rest.mapM f with
          | error error => cases values <;> simp [bind, Except.bind, hitem, ← ih, hrest]
          | ok values' => cases values <;> simp [bind, Except.bind, pure, Except.pure, hitem, ← ih, hrest]

theorem mapM_eq_error {error : ε} :
    items.mapM f = .error error ↔
      ∃ before item after, items = before ++ item :: after ∧
        (∀ earlier ∈ before, ∃ value, f earlier = .ok value) ∧ f item = .error error := by
  induction items with
  | nil => simp [pure, Except.pure]
  | cons item rest ih =>
      rw [List.mapM_cons, exists_first_cons (q := fun _ item => f item = .error error), ← ih]
      cases hitem : f item with
      | error cause => simp [bind, Except.bind]
      | ok value => cases rest.mapM f <;> simp [bind, Except.bind, pure, Except.pure]

end All

/-! ## Numbered names -/

/-- What is added to a name for a row with a number, of a total of rows. -/
def suffix (total number : Nat) : String :=
  if 1 < total then " (example " ++ toString number ++ ")" else ""

theorem number_of_suffix {name other : String} {total number number' : Nat} (htotal : 1 < total)
    (h : name ++ suffix total number = other ++ suffix total number') : number = number' := by
  rw [suffix, suffix, if_pos htotal, if_pos htotal] at h
  have hchars := congrArg String.toList h
  simp only [String.toList_append, ← List.append_assoc, Nat.toString_eq_ofList_toDigits,
    String.toList_ofList] at hchars
  have hdigits := List.append_cancel_right hchars
  -- The digits are what the text ends with up to the blank before them.
  have hread (start : List Char) (n : Nat) :
      ((start ++ " (example ".toList ++ Nat.toDigits 10 n).reverse.takeWhile Char.isDigit).reverse =
        Nat.toDigits 10 n := by
    have hall : ∀ c ∈ (Nat.toDigits 10 n).reverse, c.isDigit = true := by
      intro c hc
      exact Nat.isDigit_of_mem_toDigits (by decide) (by decide) (List.mem_reverse.mp hc)
    have hblank : (" (example ".toList.reverse ++ start.reverse).takeWhile Char.isDigit = [] := by
      rfl
    rw [List.reverse_append, List.reverse_append, List.takeWhile_append_of_pos hall, hblank,
      List.append_nil, List.reverse_reverse]
  have hsame : Nat.toDigits 10 number = Nat.toDigits 10 number' := by
    rw [← hread name.toList number, hdigits, hread]
  have hvalue := congrArg (fun digits => Nat.ofDigitChars 10 digits 0) hsame
  simpa using hvalue

/-! ## Rows -/

/-- All rows of some blocks in order, each with its block. -/
def rowsOf (blocks : List Block) : List (Block × List String) :=
  blocks.flatMap fun block => block.rows.map (block, ·)

theorem mem_rowsOf {blocks : List Block} {block : Block} {row : List String} :
    (block, row) ∈ rowsOf blocks ↔ block ∈ blocks ∧ row ∈ block.rows := by
  simp [rowsOf]

/-- An instance is made from a row of a block: the row has a number, counted over all blocks from one,
of a total of rows. -/
structure IsRow (feature : Feature) (scenario : Scenario) (total number : Nat) (block : Block)
    (row : List String) (instance_ : Instance) : Prop where
  feature_eq : instance_.feature = feature.name
  template_eq : instance_.template = scenario.name
  name_eq : instance_.name =
    interpolate (rowValues block.headers row) scenario.name ++ suffix total number
  iteration_eq : instance_.iteration = if 1 < total then some number else none
  tags_eq : instance_.tags = feature.tags ++ scenario.tags ++ block.tags
  background_eq : instance_.background = feature.backgroundSteps ++ scenario.backgroundSteps
  keywords_eq : instance_.steps.map Step.keyword = scenario.steps.map Step.keyword

/-- An expansion goes through the rows of some blocks: it has one instance for each, and no two of them
have the same key. That there are no rows is said by the only warning. -/
structure RowByRow (feature : Feature) (scenario : Scenario) (blocks : List Block)
    (expansion : Expansion) : Prop where
  rows : List.Forall₂
    (fun row => IsRow feature scenario (rowsOf blocks).length row.2 row.1.1 row.1.2)
    ((rowsOf blocks).zipIdx 1) expansion.instances
  keys : (expansion.instances.map Instance.key).Nodup
  warned : rowsOf blocks = [] → expansion.warnings = [.noRows scenario.name]
  quiet : rowsOf blocks ≠ [] → ∀ name, .noRows name ∉ expansion.warnings

section Rows

variable {feature : Feature} {scenario : Scenario} {blocks : List Block}

theorem numberRows_eq (first : Nat) (blocks : List Block) :
    numberRows first blocks =
      ((rowsOf blocks).zipIdx first).map fun row => ⟨row.1.1, row.1.2, row.2⟩ := by
  induction blocks generalizing first with
  | nil => rfl
  | cons block rest ih =>
      have hrows : rowsOf (block :: rest) = block.rows.map (block, ·) ++ rowsOf rest := rfl
      -- The rows of the block are counted first, those of the others go on counting.
      rw [numberRows, ih, hrows, List.zipIdx_append, List.map_append, List.length_map,
        List.mapIdx_eq_zipIdx_map]
      congr 1
      rw [List.zipIdx_map, List.map_map, List.zipIdx_eq_map_add (i := first)]
      simp [Function.comp_def]

theorem isRow_instanceOf (total number : Nat) (block : Block) (row : List String) :
    IsRow feature scenario total number block row
      (instanceOf (.plain feature scenario) scenario total ⟨block, row, number⟩) where
  feature_eq := rfl
  template_eq := rfl
  name_eq := by
    unfold instanceOf suffix
    dsimp only
    split
    · rw [String.append_assoc, String.append_assoc, String.append_assoc]
    · rw [String.append_empty]
  iteration_eq := rfl
  tags_eq := rfl
  background_eq := rfl
  keywords_eq := by simp [instanceOf, interpolateStep, Function.comp_def]

/-- There is one instance for each row, the rows being counted from one. -/
theorem instances_ofBlocks :
    (ofBlocks (.plain feature scenario) scenario blocks).instances =
      ((rowsOf blocks).zipIdx 1).map fun row =>
        instanceOf (.plain feature scenario) scenario (rowsOf blocks).length ⟨row.1.1, row.1.2, row.2⟩ := by
  unfold ofBlocks
  dsimp only
  rw [numberRows_eq]
  split
  next hempty =>
    have hnone : rowsOf blocks = [] := by simpa using hempty
    rw [hnone]
    rfl
  next => simp [Function.comp_def]

theorem rows_ofBlocks :
    List.Forall₂ (fun row => IsRow feature scenario (rowsOf blocks).length row.2 row.1.1 row.1.2)
      ((rowsOf blocks).zipIdx 1) (ofBlocks (.plain feature scenario) scenario blocks).instances := by
  rw [instances_ofBlocks, List.forall₂_map_right_iff, List.forall₂_same]
  intro row _
  exact isRow_instanceOf _ _ _ _

theorem keys_nodup {instances : List Instance}
    (h : List.Forall₂ (fun row => IsRow feature scenario (rowsOf blocks).length row.2 row.1.1 row.1.2)
      ((rowsOf blocks).zipIdx 1) instances) : (instances.map Instance.key).Nodup := by
  have hlength : instances.length = (rowsOf blocks).length := by
    rw [← h.length_eq, List.length_zipIdx]
  by_cases htotal : 1 < (rowsOf blocks).length
  · -- Equal names end with equal numbers, and every row has a number of its own.
    rw [List.nodup_iff_injective_get]
    intro i j heq
    have hi : i.1 < instances.length := by simpa using i.2
    have hj : j.1 < instances.length := by simpa using j.2
    have hname : (instances[i.1]).name = (instances[j.1]).name := by
      have hkey : (instances[i.1]).key = (instances[j.1]).key := by simpa using heq
      exact congrArg ScenarioKey.scenario hkey
    rw [List.forall₂_iff_get] at h
    have hrow := (h.2 i.1 (by simpa [hlength] using hi) hi).name_eq
    have hrow' := (h.2 j.1 (by simpa [hlength] using hj) hj).name_eq
    simp only [List.get_eq_getElem, List.getElem_zipIdx] at hrow hrow'
    rw [hrow, hrow'] at hname
    have hnumber := number_of_suffix htotal hname
    exact Fin.ext (by omega)
  · -- One name alone is different from all others.
    have hshort : instances.length ≤ 1 := by omega
    match instances, hshort with
    | [], _ => exact List.nodup_nil
    | [_], _ => exact List.nodup_singleton _

theorem rowByRow_ofBlocks :
    RowByRow feature scenario blocks (ofBlocks (.plain feature scenario) scenario blocks) where
  rows := rows_ofBlocks
  keys := keys_nodup rows_ofBlocks
  warned := by
    intro hnone
    unfold ofBlocks
    simp [numberRows_eq, hnone]
  quiet := by
    intro hsome name hwarned
    unfold ofBlocks at hwarned
    simp [numberRows_eq, hsome, rowWarnings] at hwarned

end Rows

/-! ## Expansions -/

section Expand

variable {source : Option ExamplesSource} {feature : Feature} {scenario : Scenario}

theorem expand_template (htemplate : scenario.isTemplate = true) :
    expand source feature scenario =
      (scenario.examples.mapM (resolveBlock source scenario.name)).map
        (ofBlocks (.plain feature scenario) scenario) := by
  rw [expand, if_pos htemplate]
  cases scenario.examples.mapM (resolveBlock source scenario.name) <;> rfl

theorem exists_blocks (htemplate : scenario.isTemplate = true) {expansion : Expansion}
    (h : expand source feature scenario = .ok expansion) :
    ∃ blocks, List.Forall₂ (Resolved source) scenario.examples blocks ∧
      expansion = ofBlocks (.plain feature scenario) scenario blocks := by
  rw [expand_template htemplate] at h
  cases hblocks : scenario.examples.mapM (resolveBlock source scenario.name) with
  | error error =>
      rw [hblocks] at h
      cases h
  | ok blocks =>
      rw [hblocks] at h
      cases h
      refine ⟨blocks, (mapM_eq_ok.mp hblocks).imp ?_, rfl⟩
      intro examples block hblock
      exact resolveBlock_eq_ok.mp hblock

/-- A template is expanded exactly if all blocks of its examples can be had with rows that fit, else
the first block for which this fails says why. Its expansion goes through all rows in order. -/
theorem expand_rowByRow (source : Option ExamplesSource) (feature : Feature) (scenario : Scenario)
    (htemplate : scenario.isTemplate = true) :
    ((∃ expansion, expand source feature scenario = .ok expansion) ↔
        ∀ examples ∈ scenario.examples, ∃ block, Resolved source examples block) ∧
      (∀ error, expand source feature scenario = .error error ↔
        ∃ before examples after, scenario.examples = before ++ examples :: after ∧
          (∀ earlier ∈ before, ∃ block, Resolved source earlier block) ∧
          Unresolved source scenario.name examples error) ∧
      ∀ expansion, expand source feature scenario = .ok expansion →
        ∃ blocks, List.Forall₂ (Resolved source) scenario.examples blocks ∧
          RowByRow feature scenario blocks expansion := by
  have herror (error : ExamplesError) : expand source feature scenario = .error error ↔
      ∃ before examples after, scenario.examples = before ++ examples :: after ∧
        (∀ earlier ∈ before, ∃ block, Resolved source earlier block) ∧
        Unresolved source scenario.name examples error := by
    rw [expand_template htemplate]
    simp only [← @resolveBlock_eq_ok _ scenario.name, ← resolveBlock_eq_error]
    rw [← mapM_eq_error]
    cases scenario.examples.mapM (resolveBlock source scenario.name) <;> simp [Except.map]
  refine ⟨?_, herror, ?_⟩
  · constructor
    · rintro ⟨expansion, hexpand⟩ examples hexamples
      obtain ⟨blocks, hblocks, _⟩ := exists_blocks htemplate hexpand
      obtain ⟨i, hi, rfl⟩ := List.getElem_of_mem hexamples
      exact ⟨_, hblocks.get hi (hblocks.length_eq ▸ hi)⟩
    · intro hall
      cases hexpand : expand source feature scenario with
      | ok expansion => exact ⟨expansion, rfl⟩
      | error error =>
          obtain ⟨before, examples, after, heq, _, hfails⟩ := (herror error).mp hexpand
          obtain ⟨block, hblock⟩ := hall examples (heq ▸ List.mem_append_right _ List.mem_cons_self)
          cases (resolveBlock_eq_error.mpr hfails).symm.trans (resolveBlock_eq_ok.mpr hblock)
  · intro expansion hexpand
    obtain ⟨blocks, hblocks, rfl⟩ := exists_blocks htemplate hexpand
    exact ⟨blocks, hblocks, rowByRow_ofBlocks⟩

/-- A template with a block of its own and one that a source provides. A row puts into its name what looks
like the number of another row. -/
def searches : Scenario where
  name := "search <term>"
  steps := [.when "I search for <term>"]
  examples := [{ headers := ["term"], rows := [["go (example 2)"], ["go"]], tags := ["@quick"] },
    .fromSource "more"]

/-- The other examples of the template. -/
def moreSearches : ExamplesSource := .ofTables [("more", { headers := ["term"], rows := [["zig"]] })]

theorem expand_rowByRow_searches :
    ∃ expansion blocks, expand (some moreSearches) { name := "Search" } searches = .ok expansion ∧
      expansion.instances.map Instance.name =
        ["search go (example 2) (example 1)", "search go (example 2)", "search zig (example 3)"] ∧
      List.Forall₂ (Resolved (some moreSearches)) searches.examples blocks ∧
      RowByRow { name := "Search" } searches blocks expansion := by
  obtain ⟨_, _, hrows⟩ := expand_rowByRow (some moreSearches) { name := "Search" } searches rfl
  have hexpand : expand (some moreSearches) { name := "Search" } searches =
      .ok (ofBlocks (.plain { name := "Search" } searches) searches
        [⟨["term"], [["go (example 2)"], ["go"]], ["@quick"]⟩, ⟨["term"], [["zig"]], []⟩]) := rfl
  have hnames : (ofBlocks (.plain { name := "Search" } searches) searches
      [⟨["term"], [["go (example 2)"], ["go"]], ["@quick"]⟩,
        ⟨["term"], [["zig"]], []⟩]).instances.map Instance.name =
      ["search go (example 2) (example 1)", "search go (example 2)", "search zig (example 3)"] := by
    decide +kernel
  obtain ⟨blocks, hblocks, hrows⟩ := hrows _ hexpand
  exact ⟨_, blocks, hexpand, hnames, hblocks, hrows⟩

end Expand

end Acceptance.Expansion
