import Acceptance.Gherkin.Document
import Acceptance.Proofs.Expansion.Rows
import Acceptance.Proofs.Feature.Selected

/-!
# Scopes of a document

The background and the tags of a document are in force for all of its scenarios, those of a rule for the
scenarios in this rule and for no others. Each scenario has the instances that its examples give it, with the
steps and the tags that are in force where it stands, and they come in the order of the document.
-/

namespace Acceptance

open Expansion (Block Resolved Unresolved interpolate interpolateStep resolveBlock rowValues rowsOf suffix)

/-- The rows of a block have as many cells as it has headers. -/
def Expansion.Block.Fits (block : Block) : Prop := ∀ row ∈ block.rows, row.length = block.headers.length

instance : DecidablePred Block.Fits :=
  fun block => inferInstanceAs (Decidable (∀ row ∈ block.rows, row.length = block.headers.length))

/-- Why the rows of a block do not fit: the first one that has more or fewer cells than there are headers. -/
def Expansion.Block.Misshapen (scenario : String) (block : Block) (error : ExamplesError) : Prop :=
  ∃ before row after, block.rows = before ++ row :: after ∧
    (∀ earlier ∈ before, earlier.length = block.headers.length) ∧ row.length ≠ block.headers.length ∧
    error = .shape scenario ("row " ++ toString (before.length + 1) ++ " has " ++ toString row.length ++
      " cells, but there are " ++ toString block.headers.length ++ " headers")

theorem Expansion.Block.Misshapen.not_fits {block : Block} {scenario : String} {error : ExamplesError}
    (h : block.Misshapen scenario error) : ¬ block.Fits := by
  obtain ⟨before, row, after, hrows, _, hrow, _⟩ := h
  exact fun hfits => hrow (hfits row (hrows ▸ List.mem_append_right _ List.mem_cons_self))

namespace Gherkin

/-! ## What is in force where a scenario stands -/

/-- The headers and rows of a block of examples: the first row of its table holds the headers, and the others are
the rows. -/
def ExamplesBlock.toBlock (block : ExamplesBlock) : Block :=
  match block.table with
  | some (headers :: rows) => ⟨headers, rows, block.tags⟩
  | _ => ⟨[], [], block.tags⟩

/-- The steps of a background, if there is one. -/
def stepsOf (background : Option (List StepLine)) : List Step :=
  (background.getD []).map StepLine.toStep

/-- A scenario of a document, with the rule in which it stands unless it stands outside of all rules. -/
structure Placed where
  rule : Option Rule
  scenario : ScenarioBlock

/-- The scenarios of a document in order: first those outside of all rules, then those in rules. -/
def Document.placed (document : Document) : List Placed :=
  document.scenarios.map (⟨none, ·⟩) ++
    document.rules.flatMap fun rule => rule.scenarios.map (⟨some rule, ·⟩)

namespace Placed

/-- The tags of the rule in which the scenario stands. -/
def ruleTags (placed : Placed) : List String := placed.rule.elim [] Rule.tags

/-- The background of the rule in which the scenario stands. -/
def ruleBackground (placed : Placed) : Option (List StepLine) := placed.rule.bind Rule.background

/-- The blocks of examples of the scenario. -/
def blocks (placed : Placed) : List Block := placed.scenario.examples.map ExamplesBlock.toBlock

/-- All rows of the scenario's examples fit their headers. -/
def Fits (placed : Placed) : Prop := ∀ block ∈ placed.blocks, block.Fits

instance : DecidablePred Fits :=
  fun placed => inferInstanceAs (Decidable (∀ block ∈ placed.blocks, block.Fits))

/-- An instance of the scenario where it stands: it has the tags of the document, of its own rule and of the
scenario, then its own, and the background of the document before that of its own rule. -/
def inScope (document : Document) (placed : Placed) (name : String) (iteration : Option Nat)
    (tags : List String) (steps : List Step) : Instance where
  feature := document.name
  template := placed.scenario.name
  name := name
  iteration := iteration
  tags := document.tags ++ placed.ruleTags ++ placed.scenario.tags ++ tags
  background := stepsOf document.background ++ stepsOf placed.ruleBackground
  steps := steps

/-- The instance for a row of a block, the row having a number of a total of rows. -/
def ofRow (document : Document) (placed : Placed) (total number : Nat) (block : Block) (row : List String) :
    Instance :=
  let values := rowValues block.headers row
  placed.inScope document (interpolate values placed.scenario.name ++ suffix total number)
    (if 1 < total then some number else none) block.tags
    (placed.scenario.steps.map fun line => interpolateStep values line.toStep)

/-- The instances of the scenario: one for each row of its examples, or a single one if it has none. -/
def instances (document : Document) (placed : Placed) : List Instance :=
  if placed.scenario.examples = [] then
    [placed.inScope document placed.scenario.name none [] (placed.scenario.steps.map StepLine.toStep)]
  else
    ((rowsOf placed.blocks).zipIdx 1).map fun row =>
      placed.ofRow document (rowsOf placed.blocks).length row.2 row.1.1 row.1.2

/-- What the expansion of the scenario gives: its instances, or what is wrong with the first block of examples
whose rows do not fit. -/
inductive Expands (document : Document) (placed : Placed) : Except ExamplesError Expansion → Prop
  | whole {expansion : Expansion} (hfits : placed.Fits)
    (hinstances : expansion.instances = placed.instances document) : Expands document placed (.ok expansion)
  | misshapen {before after : List Block} {block : Block} {error : ExamplesError}
    (hblocks : placed.blocks = before ++ block :: after) (hbefore : ∀ earlier ∈ before, earlier.Fits)
    (hblock : block.Misshapen placed.scenario.name error) : Expands document placed (.error error)

/-- The scenario that stands for this one outside of its rule. -/
def toScenario (placed : Placed) : Scenario :=
  { placed.scenario.toScenario with
    tags := placed.ruleTags ++ placed.scenario.tags
    background := placed.ruleBackground.map toBackground }

end Placed

variable {document : Document} {placed : Placed} {source : Option ExamplesSource}

/-! ## Scenarios without their rules -/

theorem scenarios_toFeature (document : Document) :
    document.toFeature.scenarios = document.placed.map Placed.toScenario := by
  simp only [Document.placed, List.map_append, List.map_flatMap, List.map_map]
  rfl

theorem steps_toBackground (background : Option (List StepLine)) :
    ((background.map toBackground).map Background.steps).getD [] = stepsOf background := by
  cases background <;> rfl

/-- As it stands, a scenario without its rule is in the scope of the rule. -/
theorem plain_toScenario (document : Document) (placed : Placed) :
    Instance.plain document.toFeature placed.toScenario =
      placed.inScope document placed.scenario.name none [] (placed.scenario.steps.map StepLine.toStep) := by
  have htags : document.toFeature.tags ++ placed.toScenario.tags =
      document.tags ++ placed.ruleTags ++ placed.scenario.tags ++ [] := by
    rw [List.append_nil, List.append_assoc]
    rfl
  have hbackground : document.toFeature.backgroundSteps ++ placed.toScenario.backgroundSteps =
      stepsOf document.background ++ stepsOf placed.ruleBackground :=
    congrArg₂ (· ++ ·) (steps_toBackground _) (steps_toBackground _)
  rw [Instance.plain, htags, hbackground]
  rfl

theorem instanceOf_toScenario (total number : Nat) (block : Block) (row : List String) :
    Expansion.instanceOf (.plain document.toFeature placed.toScenario) placed.toScenario total
      ⟨block, row, number⟩ = placed.ofRow document total number block row := by
  have hname := (Expansion.isRow_instanceOf total number block row : Expansion.IsRow document.toFeature
    placed.toScenario total number block row _).name_eq
  have hsteps : placed.toScenario.steps.map (interpolateStep (rowValues block.headers row)) =
      placed.scenario.steps.map fun line => interpolateStep (rowValues block.headers row) line.toStep :=
    List.map_map
  rw [plain_toScenario] at hname ⊢
  simp only [Expansion.instanceOf, Placed.inScope, List.append_nil] at hname ⊢
  rw [hname, hsteps]
  rfl

/-! ## Blocks of examples -/

/-- The rows of a block are its own. -/
theorem dataOf_toExamples (block : ExamplesBlock) :
    Expansion.dataOf source block.toExamples = .ok block.toExamples := rfl

/-- The headers, rows and tags of a block are those of the examples that it stands for. -/
theorem toBlock_eq (block : ExamplesBlock) :
    block.toBlock = ⟨block.toExamples.headers, block.toExamples.rows, block.toExamples.tags⟩ := by
  obtain ⟨tags, _ | _ | ⟨headers, rows⟩⟩ := block <;> rfl

/-- A block can be had exactly if its rows fit. -/
theorem resolved_iff {block : ExamplesBlock} {resolved : Block} :
    Resolved source block.toExamples resolved ↔ resolved = block.toBlock ∧ block.toBlock.Fits := by
  rw [toBlock_eq]
  constructor
  · rintro ⟨⟨data, hdata, hheaders, hrows⟩, hfits, htags⟩
    cases (dataOf_toExamples block).symm.trans hdata
    rw [hheaders, hrows, ← htags]
    exact ⟨rfl, hfits⟩
  · rintro ⟨rfl, hfits⟩
    exact ⟨⟨_, dataOf_toExamples block, rfl, rfl⟩, hfits, rfl⟩

/-- A block cannot be had exactly if one of its rows does not fit, and the first one says why. -/
theorem unresolved_iff {block : ExamplesBlock} {scenario : String} {error : ExamplesError} :
    Unresolved source scenario block.toExamples error ↔ block.toBlock.Misshapen scenario error := by
  rw [toBlock_eq]
  constructor
  · rintro (hdata | ⟨hdata, hrows, hbefore, hrow⟩)
    · cases (dataOf_toExamples block).symm.trans hdata
    · cases (dataOf_toExamples block).symm.trans hdata
      exact ⟨_, _, _, hrows, hbefore, hrow, rfl⟩
  · rintro ⟨before, row, after, hrows, hbefore, hrow, rfl⟩
    exact .misshapen (dataOf_toExamples block) hrows hbefore hrow

/-- All of some blocks can be had exactly if the rows of each fit. -/
theorem forall₂_resolved_iff {blocks : List ExamplesBlock} {resolved : List Block} :
    List.Forall₂ (Resolved source) (blocks.map ExamplesBlock.toExamples) resolved ↔
      resolved = blocks.map ExamplesBlock.toBlock ∧
        ∀ block ∈ blocks.map ExamplesBlock.toBlock, block.Fits := by
  induction blocks generalizing resolved with
  | nil => simp
  | cons block rest ih =>
      rw [List.map_cons, List.map_cons, List.forall_mem_cons, List.forall₂_cons_left_iff]
      constructor
      · rintro ⟨first, others, hfirst, hothers, rfl⟩
        obtain ⟨rfl, hfits⟩ := resolved_iff.mp hfirst
        obtain ⟨rfl, hall⟩ := ih.mp hothers
        exact ⟨rfl, hfits, hall⟩
      · rintro ⟨rfl, hfits, hall⟩
        exact ⟨_, _, resolved_iff.mpr ⟨rfl, hfits⟩, ih.mpr ⟨rfl, hall⟩, rfl⟩

/-- If not all of some blocks can be had, then the first one whose rows do not fit says why. -/
theorem exists_misshapen {blocks : List ExamplesBlock} {scenario : String} {error : ExamplesError}
    (h : (blocks.map ExamplesBlock.toExamples).mapM (resolveBlock source scenario) = .error error) :
    ∃ before block after, blocks.map ExamplesBlock.toBlock = before ++ block :: after ∧
      (∀ earlier ∈ before, earlier.Fits) ∧ block.Misshapen scenario error := by
  obtain ⟨before, examples, after, heq, hbefore, herror⟩ := Expansion.mapM_eq_error.mp h
  obtain ⟨before, rest, rfl, rfl, hrest⟩ := List.map_eq_append_iff.mp heq
  obtain ⟨block, after, rfl, rfl, rfl⟩ := List.map_eq_cons_iff.mp hrest
  have hfits : ∀ earlier ∈ before, earlier.toBlock.Fits := by
    intro earlier hearlier
    obtain ⟨resolved, hresolved⟩ := hbefore _ (List.mem_map_of_mem hearlier)
    exact (resolved_iff.mp (Expansion.resolveBlock_eq_ok.mp hresolved)).2
  have hmisshapen := unresolved_iff.mp (Expansion.resolveBlock_eq_error.mp herror)
  exact ⟨_, _, _, by rw [List.map_append, List.map_cons], List.forall_mem_map.mpr hfits, hmisshapen⟩

/-! ## Instances -/

namespace Placed

/-- The expansion of a scenario gives its instances in the scope of its rule. -/
theorem expands_toScenario (source : Option ExamplesSource) (document : Document) (placed : Placed) :
    placed.Expands document (Expansion.expand source document.toFeature placed.toScenario) := by
  have hexamples : placed.toScenario.examples =
      placed.scenario.examples.map ExamplesBlock.toExamples := rfl
  by_cases hnone : placed.scenario.examples = []
  · -- The only instance is the scenario as it stands.
    have hfits : placed.Fits := by simp [Fits, blocks, hnone]
    have hplain : Expansion.expand source document.toFeature placed.toScenario =
        .ok { instances := [.plain document.toFeature placed.toScenario] } := by
      rw [Expansion.expand, Scenario.isTemplate, hexamples, hnone]
      rfl
    rw [hplain]
    refine .whole hfits ?_
    rw [instances, if_pos hnone, plain_toScenario]
  · have htemplate : placed.toScenario.isTemplate = true := by
      rw [Scenario.isTemplate, hexamples]
      simpa using hnone
    rw [Expansion.expand_template htemplate, hexamples]
    cases hblocks : (placed.scenario.examples.map ExamplesBlock.toExamples).mapM
      (resolveBlock source placed.toScenario.name) with
    | ok resolved =>
        have hresolved := (Expansion.mapM_eq_ok.mp hblocks).imp
          fun _ _ hblock => Expansion.resolveBlock_eq_ok.mp hblock
        obtain ⟨rfl, hfits⟩ := forall₂_resolved_iff.mp hresolved
        refine .whole hfits ?_
        rw [Expansion.instances_ofBlocks, instances, if_neg hnone]
        exact List.map_congr_left fun row _ => instanceOf_toScenario ..
    | error error =>
        obtain ⟨before, block, after, hwhole, hbefore, hblock⟩ := exists_misshapen hblocks
        exact .misshapen hwhole hbefore hblock

/-- Without filters, the instances of a scenario are selected if all its rows fit, and else none. -/
theorem instances_ofScenario_toScenario (options : Options) (source : Option ExamplesSource)
    (document : Document) (placed : Placed) :
    (Selection.ofScenario options.unfiltered source document.toFeature placed.toScenario).instances =
      if placed.Fits then placed.instances document else [] := by
  have hexpands := placed.expands_toScenario source document
  unfold Selection.ofScenario
  generalize Expansion.expand source document.toFeature placed.toScenario = result at hexpands
  cases hexpands with
  | whole hfits hinstances =>
      rw [if_pos hfits, ← hinstances]
      simp
  | misshapen hblocks _ hblock =>
      have hmem := hblocks ▸ List.mem_append_right _ List.mem_cons_self
      rw [if_neg fun hfits => hblock.not_fits (hfits _ hmem)]

end Placed

/-- A document is expanded scenario by scenario, in order and each with what is in force where it stands. -/
theorem expanded_in_scope (options : Options) (source : Option ExamplesSource) (document : Document) :
    List.Forall₂ (Placed.Expands document) document.placed
        (document.toFeature.scenarios.map (Expansion.expand source document.toFeature)) ∧
      (Selection.ofFeature options.unfiltered source document.toFeature).instances =
        document.placed.flatMap fun placed => if placed.Fits then placed.instances document else [] := by
  rw [Selection.part_ofFeature Selection.instances rfl fun _ _ => rfl, scenarios_toFeature]
  constructor
  · rw [List.map_map, List.forall₂_map_right_iff, List.forall₂_same]
    exact fun placed _ => placed.expands_toScenario source document
  · rw [List.flatMap_map]
    exact List.flatMap_congr fun placed _ => placed.instances_ofScenario_toScenario options source document

/-- A document with two rules, of which only the first has a background. -/
def ordering : Document where
  name := "Ordering"
  tags := ["shop"]
  background := some [{ keyword := "Given ", text := "a shop" }]
  scenarios := [{ name := "empty", steps := [{ keyword := "Then ", text := "there are no orders" }] }]
  rules :=
    [{ name := "members", tags := ["member"]
       background := some [{ keyword := "Given ", text := "a member" }]
       scenarios := [{ name := "discount", tags := ["price"]
                       steps := [{ keyword := "Then ", text := "it costs <price>" }]
                       examples := [{ tags := ["few"], table := some [["price"], ["8"], ["9"]] }] }] },
     { name := "guests", tags := ["guest"], scenarios := [{ name := "full", tags := ["price"] }] }]

example :
    (Selection.ofFeature {} none ordering.toFeature).instances.map
        (fun instance_ => (instance_.name, instance_.tags, instance_.allSteps.map fun step => step.1.text)) =
      [("empty", ["shop"], ["a shop", "there are no orders"]),
        ("discount (example 1)", ["shop", "member", "price", "few"], ["a shop", "a member", "it costs 8"]),
        ("discount (example 2)", ["shop", "member", "price", "few"], ["a shop", "a member", "it costs 9"]),
        ("full", ["shop", "guest", "price"], ["a shop"])] := by
  decide +kernel

end Gherkin

end Acceptance
