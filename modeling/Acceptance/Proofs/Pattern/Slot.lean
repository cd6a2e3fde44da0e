import Acceptance.Proofs.Pattern.Expression

/-!
# Slots

Where the text of one placeholder stands in a text that an expression takes: the text before it splits
along the parts before the placeholder, and the text behind it along the parts behind.
-/

namespace Acceptance

namespace Expression

/-- Among some parts stands a placeholder with a given number of others before it, and a text splits along
the parts so that a word stands for a value of it. -/
inductive HasSlot (parts : List Piece) (text : List Char) (number : Nat) (placeholder : Placeholder)
    (word value : List Char) : Prop
  | intro {before name after left right earlier later}
    (parts_eq : parts = before ++ .placeholder name :: after)
    (kind : placeholderOf name = placeholder) (count : (placeholders before).length = number)
    (text_eq : text = left ++ (word ++ right)) (reads : placeholder.Reads word value)
    (left : Splits before left earlier) (right : Splits after right later)

theorem HasSlot.cons_literal {parts : List Piece} {text word value : List Char} {number : Nat}
    {placeholder : Placeholder} (h : HasSlot parts text number placeholder word value) (c : Char) :
    HasSlot (.literal c :: parts) (c :: text) number placeholder word value := by
  obtain ⟨rfl, kind, count, rfl, reads, left, right⟩ := h
  exact ⟨rfl, kind, by simpa [placeholders] using count, rfl, reads, .literal left, right⟩

theorem HasSlot.cons_placeholder {parts : List Piece} {text word value : List Char} {number : Nat}
    {placeholder : Placeholder} (h : HasSlot parts text number placeholder word value)
    {name own ownValue : List Char} (reads : (placeholderOf name).Reads own ownValue) :
    HasSlot (.placeholder name :: parts) (own ++ text) (number + 1) placeholder word value := by
  obtain ⟨rfl, kind, count, rfl, reads', left, right⟩ := h
  refine ⟨rfl, kind, ?_, (List.append_assoc _ _ _).symm, reads', .placeholder reads left, right⟩
  simpa [placeholders] using count

/-- Each placeholder has a slot in a split, and the split lists the value of the slot in its place. -/
theorem Splits.exists_slot {parts : List Piece} {text : List Char} {values : List (List Char)}
    (splits : Splits parts text values) {number : Nat} {placeholder : Placeholder}
    (h : (placeholders parts)[number]? = some placeholder) :
    ∃ word value, HasSlot parts text number placeholder word value ∧ values[number]? = some value := by
  induction splits generalizing number with
  | nil => simp [placeholders] at h
  | @literal c parts text values rest ih =>
    obtain ⟨word, value, slot, hvalue⟩ := ih (by simpa [placeholders] using h)
    exact ⟨word, value, slot.cons_literal c, hvalue⟩
  | @placeholder name word value parts text values reads rest ih =>
    cases number with
    | zero =>
      obtain rfl : placeholderOf name = placeholder := by simpa [placeholders] using h
      exact ⟨word, value, ⟨(List.nil_append _).symm, rfl, rfl, (List.nil_append _).symm, reads, .nil, rest⟩,
        rfl⟩
    | succ number =>
      obtain ⟨word', value', slot, hvalue⟩ := ih (by simpa [placeholders] using h)
      exact ⟨word', value', slot.cons_placeholder reads, hvalue⟩

/-- Literal characters at the start of an expression stand at the start of a text as they are. -/
theorem splits_literals_append {start text : List Char} {parts : List Piece}
    {values : List (List Char)} :
    Splits (start.map .literal ++ parts) text values ↔
      ∃ rest, text = start ++ rest ∧ Splits parts rest values := by
  induction start generalizing text with
  | nil => simp
  | cons c start ih =>
    constructor
    · intro splits
      cases splits with
      | literal splits =>
        obtain ⟨rest, rfl, hrest⟩ := ih.mp splits
        exact ⟨rest, rfl, hrest⟩
    · rintro ⟨rest, rfl, splits⟩
      exact .literal (ih.mpr ⟨rest, rfl, splits⟩)

end Expression

namespace Matcher

open Expression

/-- What an expression gives for a text are the values of a split, whatever bounds its size. -/
theorem splits_of_captures {limit : Option Nat} {expression text : String} {compiled : Matcher}
    {values : List String} (compiles : compileWithin limit (.expression expression) = .ok compiled)
    (result : compiled.captures text = some values) :
    Splits (pieces expression.toList) text.toList (values.map String.toList) := by
  simp only [compileWithin, form?] at compiles
  split at compiles
  next =>
    obtain rfl := Except.ok.inj compiles
    obtain ⟨marks, searched, given⟩ := Option.bind_eq_some_iff.mp result
    obtain ⟨texts, splits, gives⟩ := splits_of_found (Regex.found_of_search _ searched)
    have same := gives.values [] (by simp)
    rw [List.append_nil] at same
    obtain rfl := Option.some.inj (given.symm.trans (congrArg (some ·) (congrArg _ same)))
    simpa [Function.comp_def] using splits
  next => cases compiles

/-- A text that splits along an expression is taken by it. -/
theorem exists_captures {expression text : String} {values : List (List Char)}
    (splits : Splits (pieces expression.toList) text.toList values) :
    ∃ compiled, compileWithin none (.expression expression) = .ok compiled ∧
      (compiled.captures text).isSome = true := by
  obtain ⟨compiled, compiles, -, regex, -, placeholders⟩ := compileWithin_expression expression
  refine ⟨compiled, compiles, ?_⟩
  simp only [captures, regex, placeholders, Option.bind_eq_bind, Option.isSome_bind]
  simpa using isSome_search_tree.mpr ⟨values, splits⟩

/-- The value that an expression gives for one of its placeholders is that of its slot. -/
theorem exists_slot_of_captures {limit : Option Nat} {expression text : String} {compiled : Matcher}
    {values : List String} (compiles : compileWithin limit (.expression expression) = .ok compiled)
    (result : compiled.captures text = some values) {number : Nat} {placeholder : Placeholder}
    (h : (Expression.placeholders (pieces expression.toList))[number]? = some placeholder) :
    ∃ word value, HasSlot (pieces expression.toList) text.toList number placeholder word value ∧
      values[number]? = some (String.ofList value) := by
  obtain ⟨word, value, slot, hvalue⟩ := (splits_of_captures compiles result).exists_slot h
  rw [List.getElem?_map, Option.map_eq_some_iff] at hvalue
  obtain ⟨given, hgiven, rfl⟩ := hvalue
  exact ⟨word, _, slot, by rw [hgiven, String.ofList_toList]⟩

end Matcher

end Acceptance
