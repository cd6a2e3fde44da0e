import Acceptance.Proofs.Pattern.Source
import Mathlib.Data.List.TakeWhile

/-!
# Expressions

An expression is cut into its parts without loss, and its matcher takes exactly the texts that can be
split along these parts: literal characters as they are, and for each placeholder a text that stands for
a value. The values it gives are those of one such split.
-/

namespace Acceptance

open Regex

namespace Expression

/-- Whether the next brace in a text closes one that stands before it. -/
def IsClosed (text : List Char) : Prop := (text.dropWhile isNoBrace).head? = some '}'

/-- A cut of an expression into parts: nothing is lost, no name holds a brace, and an opening brace
stands for itself only where the next brace does not close it. -/
structure IsCut (expression : List Char) (parts : List Piece) : Prop where
  text : parts.flatMap Piece.text = expression
  names : ∀ name, .placeholder name ∈ parts → ∀ c ∈ name, isNoBrace c = true
  braces : ∀ before after, parts = before ++ .literal '{' :: after →
    ¬ IsClosed (after.flatMap Piece.text)

theorem IsCut.cons_literal {c : Char} {rest : List Char} {parts : List Piece}
    (cut : IsCut rest parts) (brace : c = '{' → ¬ IsClosed rest) :
    IsCut (c :: rest) (.literal c :: parts) where
  text := by simp [Piece.text, cut.text]
  names name mem := cut.names name (by simpa using mem)
  braces before after eq := by
    rcases List.cons_eq_append_iff.mp eq with ⟨rfl, same⟩ | ⟨before, rfl, behind⟩
    · obtain ⟨rfl, rfl⟩ : '{' = c ∧ after = parts := by simpa using same
      rw [cut.text]
      exact brace rfl
    · exact cut.braces before after behind

theorem IsCut.cons_placeholder {name rest : List Char} {parts : List Piece} (cut : IsCut rest parts)
    (plain : ∀ c ∈ name, isNoBrace c = true) :
    IsCut ('{' :: (name ++ '}' :: rest)) (.placeholder name :: parts) where
  text := by simp [Piece.text, cut.text]
  names other mem := by
    rcases List.mem_cons.mp mem with same | mem
    · cases same
      exact plain
    · exact cut.names other mem
  braces before after eq := by
    rcases List.cons_eq_append_iff.mp eq with ⟨rfl, same⟩ | ⟨before, rfl, behind⟩
    · simp at same
    · exact cut.braces before after behind

theorem isCut_pieces (expression : List Char) : IsCut expression (pieces expression) := by
  fun_induction pieces expression with
  | case1 => exact ⟨rfl, by simp, by simp⟩
  | case2 rest after next ih =>
    have whole : rest = rest.takeWhile isNoBrace ++ '}' :: after := by
      rw [← next, List.takeWhile_append_dropWhile]
    have plain (c : Char) (mem : c ∈ rest.takeWhile isNoBrace) : isNoBrace c = true :=
      List.mem_takeWhile_imp mem
    have cut := ih.cons_placeholder plain
    rwa [← whole] at cut
  | case3 rest other ih =>
    refine ih.cons_literal fun _ closed => ?_
    obtain ⟨after, next⟩ := List.head?_eq_some_iff.mp closed
    exact other after next
  | case4 c rest plain ih => exact ih.cons_literal fun brace => absurd brace plain

/-- A text splits along some parts: literal characters stand as they are, and each placeholder has a text
that stands for the value listed for it. -/
inductive Splits : List Piece → List Char → List (List Char) → Prop
  | nil : Splits [] [] []
  | literal {c parts text values} (rest : Splits parts text values) :
    Splits (.literal c :: parts) (c :: text) values
  | placeholder {name word value parts text values} (reads : (placeholderOf name).Reads word value)
    (rest : Splits parts text values) :
    Splits (.placeholder name :: parts) (word ++ text) (value :: values)

/-- A split has one value for each placeholder. -/
theorem Splits.length {parts : List Piece} {text : List Char} {values : List (List Char)}
    (splits : Splits parts text values) : values.length = (placeholders parts).length := by
  induction splits with
  | nil => rfl
  | literal rest ih => simpa [placeholders] using ih
  | placeholder reads rest ih => simpa [placeholders] using ih

theorem loopsTake_treesFrom (parts : List Piece) (first : Nat) :
    ∀ tree ∈ treesFrom first parts, tree.LoopsTake := by
  induction parts generalizing first with
  | nil => simp [treesFrom]
  | cons part parts ih =>
    cases part with
    | literal c => exact List.forall_mem_cons.mpr ⟨trivial, ih _⟩
    | placeholder name =>
      exact List.forall_mem_cons.mpr ⟨Placeholder.loopsTake_tree _ _, ih _⟩

/-- Some parts and the end of the text behind them. -/
def ending (first : Nat) (parts : List Piece) : Tree :=
  .chain (treesFrom first parts ++ [.look .textEnd])

section Matches

variable {first : Nat} {parts : List Piece}
variable {text : List Char} {i j : Nat} {marks : Marks}

/-- Marks give the values of placeholders, whatever the earlier placeholders passed. -/
structure Gives (text : List Char) (first : Nat) (parts : List Piece) (marks : Marks)
    (values : List (List Char)) : Prop where
  later : ∀ mark ∈ marks, first ≤ mark.1 / 2
  values : ∀ earlier : Marks, (∀ mark ∈ earlier, mark.1 / 2 < first) →
    Matcher.placeholderValues (group text (marks ++ earlier)) first (placeholders parts) = values

/-- What is matched of the parts up to the end of the text is split along them, and the marks give the
values of the split. -/
theorem splits_of_matches (matched : (ending first parts).Matches text i j marks) :
    ∃ values, Splits parts (text.drop i) values ∧ Gives text first parts marks values := by
  induction parts generalizing first i j marks with
  | nil =>
    obtain ⟨ends, -, rfl⟩ := matched
    rw [List.drop_eq_nil_of_le (textEnd_holds.mp ends)]
    exact ⟨[], .nil, by simp, fun _ _ => rfl⟩
  | cons part parts ih =>
    cases part with
    | literal c =>
      obtain ⟨k, _, later, ⟨rfl, spells⟩, rest, rfl⟩ := Tree.matches_chain_cons.mp matched
      obtain ⟨values, splits, gives⟩ := ih rest
      rw [spells.drop, List.append_nil]
      exact ⟨values, .literal splits, gives.later, gives.values⟩
    | placeholder name =>
      obtain ⟨k, own, later, taken, rest, rfl⟩ := Tree.matches_chain_cons.mp matched
      obtain ⟨value, placed⟩ := Placeholder.placed_of_matches taken
      obtain ⟨word, reads, spells⟩ := placed.reads
      obtain ⟨values, splits, gives⟩ := ih rest
      rw [spells.drop]
      refine ⟨value :: values, .placeholder reads splits, ?_, fun earlier lower => ?_⟩
      · intro mark mem
        rcases List.mem_append.mp mem with mem | mem
        · exact (Nat.le_add_right _ _).trans (gives.later mark mem)
        · exact (placed.half_mem mem).1
      · have before : ∀ mark ∈ own ++ earlier,
            mark.1 / 2 < first + (placeholderOf name).groups := by
          intro mark mem
          rcases List.mem_append.mp mem with mem | mem
          · exact (placed.half_mem mem).2
          · exact Nat.lt_add_right _ (lower mark mem)
        rw [List.append_assoc]
        exact congrArg₂ _
          (congrArg (Option.getD · []) (placed.findSome?_group lower gives.later))
          (gives.values (own ++ earlier) before)

/-- Every split is matched. -/
theorem exists_matches_of_splits {values : List (List Char)}
    (splits : Splits parts (text.drop i) values) :
    ∃ j marks, (ending first parts).Matches text i j marks := by
  generalize eq : text.drop i = left at splits
  induction splits generalizing first i with
  | nil => exact ⟨i, [], textEnd_holds.mpr (List.drop_eq_nil_iff.mp eq), rfl, rfl⟩
  | @literal c parts left values rest ih =>
    have spells : Spells text i (i + [c].length) [c] := .of_drop eq
    obtain ⟨j, marks, matched⟩ := ih (List.append_cancel_left (spells.drop.symm.trans eq))
    exact ⟨j, _, Tree.matches_chain_cons.mpr ⟨_, _, _, ⟨rfl, spells⟩, matched, rfl⟩⟩
  | @placeholder name word value parts left values reads rest ih =>
    have spells := Spells.of_drop eq
    obtain ⟨own, taken⟩ := Placeholder.exists_matches reads spells
    obtain ⟨j, marks, matched⟩ := ih (List.append_cancel_left (spells.drop.symm.trans eq))
    exact ⟨j, _, Tree.matches_chain_cons.mpr ⟨_, _, _, taken, matched, rfl⟩⟩

/-- A match of a whole expression begins where the text does. -/
theorem splits_of_found (found : Found text (tree parts).compile marks) :
    ∃ values, Splits parts text values ∧ Gives text 1 parts marks values := by
  obtain ⟨i, j, inText, matched⟩ := found
  obtain ⟨starts, matched⟩ := matches_anchored.mp (matches_compileFrom.mp matched)
  obtain rfl := (textStart_holds inText).mp starts
  exact splits_of_matches matched

theorem isSome_search_tree :
    ((tree parts).compile.search text).isSome = true ↔ ∃ values, Splits parts text values := by
  rw [tree, isSome_search_anchored (loopsTake_treesFrom parts 1)]
  constructor
  · rintro ⟨j, marks, matched⟩
    obtain ⟨values, splits, -⟩ : ∃ values, Splits parts (text.drop 0) values ∧
        Gives text 1 parts marks values := splits_of_matches matched
    exact ⟨values, splits⟩
  · rintro ⟨values, splits⟩
    have whole : Splits parts (text.drop 0) values := splits
    exact exists_matches_of_splits whole

end Matches

end Expression

namespace Matcher

open Expression

theorem compileWithin_expression (expression : String) :
    ∃ compiled, compileWithin none (.expression expression) = .ok compiled ∧
      compiled.source = Expression.source (pieces expression.toList) ∧
      compiled.regex = (tree (pieces expression.toList)).compile ∧
      compiled.groups = groupsOf (pieces expression.toList) ∧
      compiled.placeholders = some (Expression.placeholders (pieces expression.toList)) := by
  refine ⟨_, rfl, rfl, rfl, ?_, rfl⟩
  rw [groupsOf, List.sum_eq_foldl, List.foldl_map]

/-- The source of an expression, compiled as it is written, has the groups of the expression and matches
the same. -/
theorem exists_compileWithin_source (parts : List Piece) :
    ∃ raw, compileWithin none (.regex (Expression.source parts)) = .ok raw ∧ raw.groups = groupsOf parts ∧
      ∀ text i j marks, Matches text raw.regex i j marks ↔
        Matches text (tree parts).compile i j marks := by
  obtain ⟨written, reads, groups, agrees⟩ := exists_parse?_source parts
  have compiles : ∃ raw, compileWithin none (.regex (Expression.source parts)) = .ok raw ∧
      raw.regex = written.tree.compile ∧ raw.groups = written.groups := by
    simp [compileWithin, form?, reads, Tree.fits]
  obtain ⟨raw, compiles, regex, rawGroups⟩ := compiles
  refine ⟨raw, compiles, rawGroups.trans groups, fun text i j marks => ?_⟩
  rw [regex]
  exact matches_compileFrom.trans ((agrees text i j marks).trans matches_compileFrom.symm)

/-- A compiled expression has a match where a text splits along its parts, and it gives the values of
such a split, one for each placeholder. As it is written its regular expression has the same groups and
matches the same. -/
theorem captures_expression (expression : String) :
    IsCut expression.toList (pieces expression.toList) ∧
    ∃ compiled, compileWithin none (.expression expression) = .ok compiled ∧
      (∃ raw, compileWithin none (.regex compiled.source) = .ok raw ∧
        raw.groups = compiled.groups ∧
        ∀ text i j marks, Matches text raw.regex i j marks ↔
          Matches text compiled.regex i j marks) ∧
      ∀ text : String,
        ((compiled.captures text).isSome = true ↔
          ∃ values, Splits (pieces expression.toList) text.toList values) ∧
        ∀ values, compiled.captures text = some values →
          values.length = (Expression.placeholders (pieces expression.toList)).length ∧
          Splits (pieces expression.toList) text.toList (values.map String.toList) := by
  obtain ⟨compiled, compiles, written, regex, groups, placeholders⟩ :=
    compileWithin_expression expression
  refine ⟨isCut_pieces _, compiled, compiles, ?_, fun text => ?_⟩
  · rw [written, groups, regex]
    exact exists_compileWithin_source _
  simp only [captures, regex, placeholders, Option.bind_eq_bind, Option.isSome_bind]
  refine ⟨?_, fun values result => ?_⟩
  · rw [← isSome_search_tree]
    simp
  · obtain ⟨marks, searched, given⟩ := Option.bind_eq_some_iff.mp result
    obtain ⟨texts, splits, gives⟩ := splits_of_found (found_of_search _ searched)
    have same := gives.values [] (by simp)
    rw [List.append_nil] at same
    rw [same] at given
    obtain rfl := Option.some.inj given
    refine ⟨by rw [List.length_map, splits.length], ?_⟩
    simpa [Function.comp_def] using splits

end Matcher

end Acceptance
