import Acceptance.Proofs.Bindings
import Acceptance.Proofs.Expansion.Rows
import Acceptance.Proofs.Substitution.Angle

/-!
# Placeholders

A header in angle brackets stands for the value of its column. Where no header has angle brackets of its
own, placeholders cannot overlap, so it is clear what filling in a text means. An expansion reads what
stands between `<` and `>` without a blank as one name. So it fills in a placeholder wherever it stands,
unless its header has a blank or the same word has another `<` before it.
-/

namespace Acceptance

open Delimiters

/-- The step with all its texts changed in which placeholders may stand. -/
def Step.mapTexts (f : String → String) (step : Step) : Step :=
  { step with
    text := f step.text
    table := step.table.map (Table.mapCells f)
    docString := step.docString.map f }

namespace Expansion

/-! ## Filling in -/

/-- A header as texts refer to it. -/
def placeholder (header : String) : String := "<" ++ header ++ ">"

/-- Headers whose placeholders are told apart from each other and from the text around them. -/
structure PlainHeaders (headers : List String) : Prop where
  nodup : headers.Nodup
  nonempty : ∀ header ∈ headers, header ≠ ""
  opening : ∀ header ∈ headers, '<' ∉ header.toList
  closing : ∀ header ∈ headers, '>' ∉ header.toList

/-- The headers with the values that a row gives them. -/
def columnsOf (headers row : List String) : List (String × String) :=
  (headers.zip row).map fun column => (column.1, cellValue column.1 column.2)

/-- The column whose placeholder a text begins with. -/
def column? (columns : List (String × String)) (text : List Char) : Option (String × String) :=
  columns.find? fun column => (placeholder column.1).toList <+: text

/-- A text with all placeholders replaced at once, from some characters on. The first ones are skipped:
they belong to a placeholder that has been replaced. -/
def fillFrom (columns : List (String × String)) : Nat → List Char → List Char
  | _, [] => []
  | skip + 1, _ :: rest => fillFrom columns skip rest
  | 0, c :: rest =>
    match column? columns (c :: rest) with
    | some column => column.2.toList ++ fillFrom columns (column.1.toList.length + 1) rest
    | none => c :: fillFrom columns 0 rest

/-- A text with all placeholders replaced at once. -/
def fill (columns : List (String × String)) (text : String) : String :=
  String.ofList (fillFrom columns 0 text.toList)

/-- What a replacement does in any text: a placeholder is replaced by its value wherever it stands, except
where it is overlooked, and all other text is kept. -/
structure FillsIn (columns : List (String × String)) (overlooked : String → String → Prop)
    (replace : String → String) : Prop where
  replaced : ∀ header value, (header, value) ∈ columns → ∀ before after, ¬ overlooked header before →
    replace (before ++ placeholder header ++ after) = replace before ++ value ++ replace after
  kept : ∀ header value, (header, value) ∈ columns → ∀ before after, overlooked header before →
    replace (before ++ placeholder header ++ after) =
      replace before ++ placeholder header ++ replace after
  verbatim : ∀ text,
    (∀ header value before after, (header, value) ∈ columns →
      text ≠ before ++ placeholder header ++ after) → replace text = text

/-- A placeholder is not found behind a text: its header has a blank, or the text ends with a word in which
a bracket has been opened. -/
def Overlooked (header before : String) : Prop :=
  (∃ c ∈ header.toList, Text.isBlank c = true) ∨ EndsOpen before.toList

/-- No placeholder of a text is overlooked. -/
def NoneOverlooked (columns : List (String × String)) (text : String) : Prop :=
  ∀ header value before after, (header, value) ∈ columns →
    text = before ++ placeholder header ++ after → ¬ Overlooked header before

section Fill

variable {columns : List (String × String)} {header value : String} {text rest : List Char}

@[simp]
theorem toList_placeholder (header : String) :
    (placeholder header).toList = '<' :: (header.toList ++ ['>']) := by
  simp [placeholder]

theorem of_column?_eq_some {column : String × String} (h : column? columns text = some column) :
    column ∈ columns ∧ (placeholder column.1).toList <+: text :=
  ⟨List.mem_of_find?_eq_some h, by simpa using List.find?_some h⟩

theorem column?_eq_none :
    column? columns text = none ↔ ∀ column ∈ columns, ¬ (placeholder column.1).toList <+: text := by
  simp [column?]

theorem header_eq_of_isPrefix {other : String} (hheader : '>' ∉ header.toList) (hother : '>' ∉ other.toList)
    (h : (placeholder other).toList <+: (placeholder header).toList ++ rest) : other = header := by
  -- A header is read up to the first closing bracket.
  have hread (part behind : List Char) (hpart : '>' ∉ part) :
      (part ++ '>' :: behind).takeWhile (· ≠ '>') = part := by
    have hall : ∀ c ∈ part, decide (c ≠ '>') = true := by
      intro c hc
      exact decide_eq_true fun heq => hpart (heq ▸ hc)
    rw [List.takeWhile_append_of_pos hall]
    simp
  obtain ⟨behind, hbehind⟩ := h
  have hsame : other.toList ++ '>' :: behind = header.toList ++ '>' :: rest := by
    simpa using hbehind
  rw [← String.toList_inj, ← hread other.toList behind hother, hsame, hread header.toList rest hheader]

theorem column?_placeholder (hplain : PlainHeaders (columns.map Prod.fst))
    (hmem : (header, value) ∈ columns) (rest : List Char) :
    column? columns ((placeholder header).toList ++ rest) = some (header, value) := by
  cases hcolumn : column? columns ((placeholder header).toList ++ rest) with
  | none => exact absurd (List.prefix_append _ rest) (column?_eq_none.mp hcolumn (header, value) hmem)
  | some column =>
      obtain ⟨hmem', hprefix⟩ := of_column?_eq_some hcolumn
      have hclosing : '>' ∉ header.toList := hplain.closing header (List.mem_map_of_mem hmem)
      have hclosing' : '>' ∉ column.1.toList := hplain.closing column.1 (List.mem_map_of_mem hmem')
      have hheader : column.1 = header := header_eq_of_isPrefix hclosing hclosing' hprefix
      rw [List.inj_on_of_nodup_map hplain.nodup hmem' hmem hheader]

theorem fillFrom_skip (columns : List (String × String)) (part rest : List Char) :
    fillFrom columns part.length (part ++ rest) = fillFrom columns 0 rest := by
  induction part with
  | nil => rfl
  | cons c part ih => exact ih

theorem fillFrom_placeholder (hplain : PlainHeaders (columns.map Prod.fst))
    (hmem : (header, value) ∈ columns) (rest : List Char) :
    fillFrom columns 0 ((placeholder header).toList ++ rest) =
      value.toList ++ fillFrom columns 0 rest := by
  have hcolumn := column?_placeholder hplain hmem rest
  have hskip := fillFrom_skip columns (header.toList ++ ['>']) rest
  rw [List.length_append, List.length_singleton] at hskip
  rw [toList_placeholder, List.cons_append] at hcolumn ⊢
  rw [fillFrom, hcolumn]
  exact congrArg (value.toList ++ ·) hskip

theorem isPrefix_append_opening {c : Char} (hopening : '<' ∉ header.toList) :
    (placeholder header).toList <+: c :: text ++ '<' :: rest ↔
      (placeholder header).toList <+: c :: text := by
  constructor
  · rintro ⟨behind, hbehind⟩
    rcases List.append_eq_append_iff.mp hbehind with ⟨inside, hinside, _⟩ | ⟨across, hacross, hrest⟩
    · exact ⟨inside, hinside.symm⟩
    · -- A placeholder across the bracket would have it in its header.
      cases across with
      | nil => exact ⟨[], by rw [hacross, List.append_nil, List.append_nil]⟩
      | cons first across =>
          cases hrest
          rw [toList_placeholder] at hacross
          have hmem : '<' ∈ header.toList ++ ['>'] := by
            rw [(List.cons.inj hacross).2]
            exact List.mem_append_right _ List.mem_cons_self
          simp [hopening] at hmem
  · exact fun h => h.trans (List.prefix_append _ _)

theorem column?_append (hplain : PlainHeaders (columns.map Prod.fst)) (c : Char) (text rest : List Char) :
    column? columns (c :: text ++ '<' :: rest) = column? columns (c :: text) := by
  apply List.find?_congr
  intro column hcolumn
  exact decide_eq_decide.mpr
    (isPrefix_append_opening (hplain.opening _ (List.mem_map_of_mem hcolumn)))

theorem fillFrom_append (hplain : PlainHeaders (columns.map Prod.fst)) (text rest : List Char) {skip : Nat}
    (hskip : skip ≤ text.length) :
    fillFrom columns skip (text ++ '<' :: rest) =
      fillFrom columns skip text ++ fillFrom columns 0 ('<' :: rest) := by
  induction text generalizing skip with
  | nil =>
      obtain rfl : skip = 0 := Nat.le_zero.mp hskip
      rfl
  | cons c text ih =>
      cases skip with
      | succ skip => exact ih (Nat.le_of_succ_le_succ hskip)
      | zero =>
          have hsame := column?_append hplain c text rest
          rw [List.cons_append] at hsame ⊢
          rw [fillFrom, fillFrom, hsame]
          cases hcolumn : column? columns (c :: text) with
          | none =>
              dsimp only
              rw [ih (Nat.zero_le _), List.cons_append]
          | some column =>
              -- What is skipped of a placeholder is still before the bracket.
              have hlength := (of_column?_eq_some hcolumn).2.length_le
              dsimp only
              rw [ih (by simpa using hlength), List.append_assoc]

theorem fillFrom_verbatim
    (h : ∀ column ∈ columns, ¬ (placeholder column.1).toList <:+: text) :
    fillFrom columns 0 text = text := by
  induction text with
  | nil => rfl
  | cons c text ih =>
      have hnone : column? columns (c :: text) = none :=
        column?_eq_none.mpr fun column hcolumn hprefix => h column hcolumn hprefix.isInfix
      rw [fillFrom, hnone]
      dsimp only
      rw [ih fun column hcolumn hinfix => h column hcolumn (List.infix_cons hinfix)]

theorem isInfix_iff {part text : String} :
    part.toList <:+: text.toList ↔ ∃ before after, text = before ++ part ++ after := by
  constructor
  · rintro ⟨before, after, heq⟩
    refine ⟨String.ofList before, String.ofList after, String.toList_inj.mp ?_⟩
    simp [← heq]
  · rintro ⟨before, after, rfl⟩
    exact ⟨before.toList, after.toList, by simp⟩

/-- Filling in a text overlooks no placeholder. -/
theorem fillsIn_fill (hplain : PlainHeaders (columns.map Prod.fst)) :
    FillsIn columns (fun _ _ => False) (fill columns) where
  replaced := by
    intro header value hmem before after _
    have hcut : (before ++ placeholder header ++ after).toList =
        before.toList ++ '<' :: (header.toList ++ ['>'] ++ after.toList) := by
      simp
    have hfilled := fillFrom_placeholder hplain hmem after.toList
    rw [toList_placeholder, List.cons_append] at hfilled
    rw [fill, hcut, fillFrom_append hplain _ _ (Nat.zero_le _), hfilled, String.ofList_append,
      String.ofList_append, String.ofList_toList, String.append_assoc]
    rfl
  kept := fun _ _ _ _ _ => False.elim
  verbatim := by
    intro text hnone
    rw [fill, fillFrom_verbatim, String.ofList_toList]
    intro column hcolumn hinfix
    obtain ⟨before, after, heq⟩ := isInfix_iff.mp hinfix
    exact hnone column.1 column.2 before after hcolumn heq

theorem FillsIn.eq_fill {replace : String → String} (h : FillsIn columns Overlooked replace)
    (hplain : PlainHeaders (columns.map Prod.fst)) {text : String} (hnone : NoneOverlooked columns text) :
    replace text = fill columns text := by
  -- The text is cut at one of its placeholders, and both sides of it are shorter.
  induction hlength : text.length using Nat.strong_induction_on generalizing text with
  | h length ih =>
      by_cases hoccurs : ∃ header value before after, (header, value) ∈ columns ∧
          text = before ++ placeholder header ++ after
      · obtain ⟨header, value, before, after, hmem, rfl⟩ := hoccurs
        have hshorter : before.length < length ∧ after.length < length := by
          rw [← hlength, String.length_append, String.length_append, placeholder, String.length_append]
          simp only [String.length_append]
          have : "<".length = 1 := rfl
          omega
        have hbefore : NoneOverlooked columns before := by
          intro header' value' left right hmem' heq
          apply hnone header' value' left (right ++ placeholder header ++ after) hmem'
          simp only [heq, String.append_assoc]
        have hafter : NoneOverlooked columns after := by
          intro header' value' left right hmem' heq hover
          apply hnone header' value' (before ++ placeholder header ++ left) right hmem'
          · simp only [heq, String.append_assoc]
          · -- What is open at the end of the part is also open at the end of the text before it.
            refine hover.imp_right ?_
            rintro ⟨start, word, hleft, hword⟩
            exact ⟨(before ++ placeholder header).toList ++ start, word, by simp [hleft], hword⟩
        rw [h.replaced header value hmem before after (hnone header value before after hmem rfl),
          (fillsIn_fill hplain).replaced header value hmem before after not_false,
          ih _ hshorter.1 hbefore rfl, ih _ hshorter.2 hafter rfl]
      · push Not at hoccurs
        rw [h.verbatim text hoccurs, (fillsIn_fill hplain).verbatim text hoccurs]

end Fill

/-! ## Expansions -/

section Expand

variable {columns : List (String × String)} {headers row : List String}

/-- An expansion fills in a text, except that it overlooks some placeholders. -/
theorem fillsIn_interpolate (hplain : PlainHeaders (columns.map Prod.fst)) :
    FillsIn columns Overlooked (interpolate (.ofPairs columns)) where
  replaced := by
    intro header value hmem before after hover
    obtain ⟨hblank, hopen⟩ := not_or.mp hover
    have hkey : header ∈ columns.map Prod.fst := List.mem_map_of_mem hmem
    have hvalue : (Bindings.ofPairs columns).get? (String.ofList header.toList) = some value := by
      rw [String.ofList_toList]
      exact Bindings.get?_ofPairs_of_mem hplain.nodup hmem
    have hchars := isNameChar_of_mem (hplain.closing header hkey) hblank
    have hne : header.toList ≠ [] := by simpa using hplain.nonempty header hkey
    have hreplaced := substituteChars_replaced hopen hchars hne hvalue after.toList
    apply String.toList_inj.mp
    simpa [interpolate, toList_substitute] using hreplaced
  kept := by
    intro header value hmem before after hover
    have hkey : header ∈ columns.map Prod.fst := List.mem_map_of_mem hmem
    have hkept : angle.substituteChars (Bindings.ofPairs columns).get?
          (before.toList ++ ('<' :: header.toList ++ '>' :: after.toList)) =
        angle.substituteChars (Bindings.ofPairs columns).get? before.toList ++
          ('<' :: header.toList ++
            '>' :: angle.substituteChars (Bindings.ofPairs columns).get? after.toList) := by
      by_cases hblank : ∃ c ∈ header.toList, Text.isBlank c = true
      · exact substituteChars_blank hblank (hplain.opening header hkey) (hplain.closing header hkey)
      · have hchars := isNameChar_of_mem (hplain.closing header hkey) hblank
        refine substituteChars_hidden (hover.resolve_left hblank) hchars ?_
        -- The longer name has a bracket, so it is no header.
        intro name hopening
        rw [Bindings.get?_ofPairs_eq_none]
        intro hname
        exact hplain.opening _ hname (by simpa using hopening)
    apply String.toList_inj.mp
    simpa [interpolate, toList_substitute] using hkept
  verbatim := by
    intro text hnone
    apply String.toList_inj.mp
    rw [interpolate, toList_substitute]
    apply substituteChars_of_unknown
    intro name hname
    rw [Bindings.get?_ofPairs_eq_none]
    intro hkey
    obtain ⟨column, hcolumn, heq⟩ := List.mem_map.mp hkey
    obtain ⟨before, after, htext⟩ := exists_of_token_mem hname
    apply hnone column.1 column.2 (String.ofList before) (String.ofList after) hcolumn
    apply String.toList_inj.mp
    simp [htext, heq, angle]

theorem map_fst_columnsOf (hrow : row.length = headers.length) :
    (columnsOf headers row).map Prod.fst = headers := by
  rw [columnsOf, List.map_map]
  exact List.map_fst_zip hrow.ge

/-- The texts of an instance are those of its template with the placeholders of a row filled in, except for
those that are overlooked. -/
def IsFilledIn (scenario : Scenario) (total number : Nat) (block : Block) (row : List String)
    (instance_ : Instance) : Prop :=
  ∃ replace, FillsIn (columnsOf block.headers row) Overlooked replace ∧
    (∀ text, NoneOverlooked (columnsOf block.headers row) text →
      replace text = fill (columnsOf block.headers row) text) ∧
    instance_.name = replace scenario.name ++ suffix total number ∧
    instance_.steps = scenario.steps.map (Step.mapTexts replace)

/-- Each instance of a template is filled in from its row, as far as the headers of the block are plain. So a
text in which no placeholder is overlooked is the one with all placeholders replaced at once. -/
theorem expand_fillsIn (source : Option ExamplesSource) (feature : Feature) (scenario : Scenario)
    (expansion : Expansion) (htemplate : scenario.isTemplate = true)
    (hexpand : expand source feature scenario = .ok expansion) :
    ∃ blocks, List.Forall₂ (Resolved source) scenario.examples blocks ∧
      List.Forall₂
        (fun row instance_ => PlainHeaders row.1.1.headers →
          IsFilledIn scenario (rowsOf blocks).length row.2 row.1.1 row.1.2 instance_)
        ((rowsOf blocks).zipIdx 1) expansion.instances := by
  obtain ⟨blocks, hblocks, rfl⟩ := exists_blocks htemplate hexpand
  refine ⟨blocks, hblocks, ?_⟩
  rw [instances_ofBlocks, List.forall₂_map_right_iff, List.forall₂_same]
  rintro ⟨⟨block, row⟩, number⟩ hrow hplain
  have hfits : row.length = block.headers.length := by
    obtain ⟨other, hblock, hmem⟩ := List.mem_flatMap.mp (List.fst_mem_of_mem_zipIdx hrow)
    obtain ⟨cells, hcells, heq⟩ := List.mem_map.mp hmem
    cases heq
    obtain ⟨i, hi, rfl⟩ := List.getElem_of_mem hblock
    exact (hblocks.get (hblocks.length_eq ▸ hi) hi).fits row hcells
  -- The columns have the headers of the block, since the row has as many cells.
  rw [← map_fst_columnsOf hfits] at hplain
  have hfills := fillsIn_interpolate hplain
  exact ⟨_, hfills, fun text => hfills.eq_fill hplain,
    (isRow_instanceOf _ number block row).name_eq, rfl⟩

/-- A template that refers to one header behind a bracket and to another one with a blank in it. -/
def greeting : Scenario where
  name := "<<term> by <first name>"
  steps := [.when "<term> is said"]
  examples := [{ headers := ["term", "first name"], rows := [["hello", "Ann"]] }]

/-- What the template is expanded to. -/
def greetings : Expansion :=
  ofBlocks (.plain { name := "Greetings" } greeting) greeting
    [⟨["term", "first name"], [["hello", "Ann"]], []⟩]

theorem expand_greeting : expand none { name := "Greetings" } greeting = .ok greetings := rfl

theorem expand_fillsIn_greeting :
    ∃ expansion, expand none { name := "Greetings" } greeting = .ok expansion ∧
      expansion.instances.map Instance.steps = [[.when "hello is said"]] ∧
      ∃ blocks, List.Forall₂ (Resolved none) greeting.examples blocks ∧
        List.Forall₂
          (fun row instance_ => PlainHeaders row.1.1.headers →
            IsFilledIn greeting (rowsOf blocks).length row.2 row.1.1 row.1.2 instance_)
          ((rowsOf blocks).zipIdx 1) expansion.instances := by
  have hsteps : greetings.instances.map Instance.steps = [[.when "hello is said"]] := by decide +kernel
  exact ⟨greetings, expand_greeting, hsteps, expand_fillsIn none _ greeting _ rfl expand_greeting⟩

/-- Both headers are plain, and neither is filled in where the name refers to it. -/
theorem greeting_overlooked :
    PlainHeaders ["term", "first name"] ∧
      fill (columnsOf ["term", "first name"] ["hello", "Ann"]) greeting.name = "<hello by Ann" ∧
      ∃ expansion, expand none { name := "Greetings" } greeting = .ok expansion ∧
        expansion.instances.map Instance.name = [greeting.name] ∧
        expansion.instances.map Instance.name ≠
          [fill (columnsOf ["term", "first name"] ["hello", "Ann"]) greeting.name ++ suffix 1 1] := by
  refine ⟨⟨by decide, by decide, by decide +kernel, by decide +kernel⟩, by decide +kernel, greetings,
    expand_greeting, ?_, ?_⟩
  · decide +kernel
  · decide +kernel

end Expand

end Expansion

end Acceptance
