import Acceptance.Proofs.Pattern.Placeholder
import Acceptance.Proofs.Regex.Anchored
import Mathlib.Algebra.Ring.Nat

/-!
# The source of an expression

The regular expression of an expression as it is written. A reader takes it part by part: a character,
escaped where it is a sign, for this character, and what is written for a placeholder for the expression
of the placeholder. So what is written has the groups of the expression and matches the same.
-/

namespace Acceptance

open Regex Regex.Reading

/-! ## Signs and digits -/

namespace Regex.Reading

/-- An optional sign, as it is read. -/
def signPart : Part where
  tree := .repetition 0 (some 1) true (.ofSet (CharSet.unions [.single '-', .single '+']))
  depth := 3

/-- At least some number of digits, as they are read. -/
def digitsPart (least : Nat) : Part where
  tree := .repetition least none true (.ofSet Unicode.decimalNumber)
  depth := 1

variable {rounds groups : Nat} {draft : Draft} {outer : List Enclosing} {rest : List Char} {c : Char}

theorem readFrom_sign (greedy : c ≠ '?') :
    readFrom (rounds + 4) (plain draft outer groups) ('[' :: '+' :: '-' :: ']' :: '?' :: c :: rest) =
      readFrom (rounds + 2) (plain (draft.add signPart) outer groups) (c :: rest) := by
  rw [readFrom_signs, readFrom_optional rfl greedy,
    Tree.repeated_eq _ (Tree.takesNone_ofSet _) (by decide)]
  rfl

theorem readFrom_anyDigits (greedy : c ≠ '?') :
    readFrom (rounds + 2) (plain draft outer groups) ('\\' :: 'd' :: '*' :: c :: rest) =
      readFrom rounds (plain (draft.add (digitsPart 0)) outer groups) (c :: rest) := by
  rw [readFrom_class rfl, readFrom_zeroOrMore rfl greedy,
    Tree.repeated_eq _ (Tree.takesNone_ofSet _) (by decide)]
  rfl

theorem readFrom_someDigits (greedy : c ≠ '?') :
    readFrom (rounds + 2) (plain draft outer groups) ('\\' :: 'd' :: '+' :: c :: rest) =
      readFrom rounds (plain (draft.add (digitsPart 1)) outer groups) (c :: rest) := by
  rw [readFrom_class rfl, readFrom_oneOrMore rfl greedy,
    Tree.repeated_eq _ (Tree.takesNone_ofSet _) (by decide)]
  rfl

end Regex.Reading

namespace Placeholder

theorem agrees_digit :
    (Tree.ofSet Unicode.decimalNumber).Agrees (.oneOf Unicode.decimalNumber) :=
  Tree.agrees_ofSet contains_decimalNumber_zero fun _ => Iff.rfl

theorem agrees_digits (least : Nat) : (digitsPart least).tree.Agrees
    (.repetition least none true (.oneOf Unicode.decimalNumber)) :=
  agrees_digit.repetition least none true

theorem agrees_letter : (Tree.ofSet Unicode.word).Agrees (.oneOf Unicode.word) :=
  Tree.agrees_ofSet contains_word_zero fun _ => Iff.rfl

theorem agrees_without {c d : Char} (other : d ≠ c) :
    (Tree.ofSet (CharSet.single c).compl).Agrees (.oneOf (CharSet.single c).compl) :=
  Tree.agrees_ofSet (CharSet.contains_compl_single.mpr other) fun _ => Iff.rfl

theorem agrees_signs :
    (Tree.ofSet (CharSet.unions [.single '-', .single '+'])).Agrees
      (.oneOf (CharSet.ofList ['+', '-'])) := by
  have members (c : Char) : (CharSet.unions [.single '-', .single '+']).contains c = true ↔
      (CharSet.ofList ['+', '-']).contains c = true := by
    simp [CharSet.contains_unions, or_comm]
  exact Tree.agrees_ofSet ((members '+').mpr (by simp)) members

theorem agrees_sign : signPart.tree.Agrees (.optional (.oneOf (CharSet.ofList ['+', '-']))) :=
  agrees_signs.repetition 0 (some 1) true

/-- What is written for a placeholder is read as a part that matches what the expression of the
placeholder does. -/
def IsRead (placeholder : Placeholder) (groups used depth : Nat) (tree : Tree) : Prop :=
  ∀ rounds draft rest,
    readFrom (rounds + used) (plain draft [] groups) (placeholder.source.toList ++ rest) =
      readFrom rounds (plain (draft.add { tree, depth }) [] (groups + placeholder.groups)) rest

/-- One or more characters of a class that is written as a letter behind a backslash. -/
theorem isRead_class {placeholder : Placeholder} {letter : Char} {set : CharSet} (groups : Nat)
    (written : placeholder.source.toList = ['(', '\\', letter, '+', ')'])
    (single : placeholder.groups = 1)
    (known : ∀ rest, readEscape {} (letter :: rest) = some (.charClass set, rest)) :
    IsRead placeholder groups 4 2
      (.group (groups + 1) (.repetition 1 none true (.ofSet set))) := by
  intro rounds draft rest
  have source : placeholder.source.toList ++ rest =
      '(' :: '\\' :: letter :: '+' :: ')' :: rest := by rw [written]; rfl
  rw [source, single, readFrom_capturing (by decide), readFrom_class (known _),
    readFrom_oneOrMore rfl (by decide), readFrom_close,
    Tree.repeated_eq _ (Tree.takesNone_ofSet _) (by decide)]
  rfl

theorem isRead_anything (groups : Nat) :
    IsRead .anything groups 4 2
      (.group (groups + 1) (.repetition 0 none false (.ofSet (CharSet.single '\n').compl))) := by
  intro rounds draft rest
  have written : anything.source.toList ++ rest = '(' :: '.' :: '*' :: '?' :: ')' :: rest := rfl
  rw [written, readFrom_capturing (by decide), readFrom_dot, readFrom_lazy rfl, readFrom_close,
    Tree.repeated_eq _ (Tree.takesNone_ofSet _) (by decide)]
  rfl

theorem isRead_float (groups : Nat) :
    IsRead .float groups 10 5
      (.group (groups + 1) (.chain
        [signPart.tree, (digitsPart 0).tree, .repetition 0 (some 1) true (.literal ['.']),
          (digitsPart 1).tree])) := by
  intro rounds draft rest
  have written : float.source.toList ++ rest = '(' :: '[' :: '+' :: '-' :: ']' :: '?' :: '\\' ::
    'd' :: '*' :: '\\' :: '.' :: '?' :: '\\' :: 'd' :: '+' :: ')' :: rest := rfl
  rw [written, readFrom_capturing (by decide), readFrom_sign (by decide),
    readFrom_anyDigits (by decide), readFrom_escaped (by decide), readFrom_optional rfl (by decide),
    readFrom_someDigits (by decide), readFrom_close, Tree.repeated_eq _ rfl (by decide)]
  rfl

theorem isRead_string (groups : Nat) :
    IsRead .string groups 15 6
      (.alt
        (.chain [.literal ['"'], .group (groups + 1)
          (.repetition 0 none true (.ofSet (CharSet.single '"').compl)), .literal ['"']])
        (.chain [.literal ['\''], .group (groups + 2)
          (.repetition 0 none true (.ofSet (CharSet.single '\'').compl)), .literal ['\'']])) := by
  intro rounds draft rest
  have written : string.source.toList ++ rest = '(' :: '?' :: ':' :: '"' :: '(' :: '[' :: '^' ::
    '"' :: ']' :: '*' :: ')' :: '"' :: '|' :: '\'' :: '(' :: '[' :: '^' :: '\'' :: ']' :: '*' ::
      ')' :: '\'' :: ')' :: rest := rfl
  rw [written, readFrom_plain, readFrom_character (by decide), readFrom_capturing (by decide),
    readFrom_without (by decide), CharSet.unions_single, readFrom_zeroOrMore rfl (by decide), readFrom_close,
    readFrom_character (by decide), readFrom_alternative, readFrom_character (by decide),
    readFrom_capturing (by decide), readFrom_without (by decide), CharSet.unions_single,
    readFrom_zeroOrMore rfl (by decide), readFrom_close, readFrom_character (by decide),
    readFrom_close, Tree.repeated_eq _ (Tree.takesNone_ofSet _) (by decide),
    Tree.repeated_eq _ (Tree.takesNone_ofSet _) (by decide)]
  rfl

theorem exists_isRead (placeholder : Placeholder) (groups : Nat) :
    ∃ used depth tree, used ≤ placeholder.source.toList.length ∧ depth ≤ 6 ∧
      tree.Agrees (placeholder.tree (groups + 1)) ∧ IsRead placeholder groups used depth tree := by
  cases placeholder with
  | string =>
    refine ⟨_, _, _, ?_, ?_, ?_, isRead_string groups⟩
    · decide
    · decide
    · have inner (c other : Char) (differs : other ≠ c) (number : Nat) :
          (Tree.chain [.literal [c], .group number
            (.repetition 0 none true (.ofSet (CharSet.single c).compl)), .literal [c]]).Agrees
          (quoted c number) :=
        .seq (.refl _) (.seq (((agrees_without differs).repetition 0 none true).group _) (.refl _))
      exact .alt (inner '"' '\'' (by decide) _) (inner '\'' '"' (by decide) _)
  | int =>
    exact ⟨_, _, _, by decide, by decide, (agrees_digits 1).group _,
      isRead_class groups rfl rfl fun _ => rfl⟩
  | float =>
    refine ⟨_, _, _, by decide, by decide, Tree.Agrees.group ?_ _, isRead_float groups⟩
    exact .seq agrees_sign <| .seq (agrees_digits 0) <| .seq (.refl _) (agrees_digits 1)
  | word =>
    exact ⟨_, _, _, by decide, by decide, (agrees_letter.repetition 1 none true).group _,
      isRead_class groups rfl rfl fun _ => rfl⟩
  | anything =>
    exact ⟨_, _, _, by decide, by decide,
      ((agrees_without (by decide : 'a' ≠ '\n')).repetition 0 none false).group _,
      isRead_anything groups⟩

end Placeholder

namespace Expression

/-- The number of groups of some parts. -/
def groupsOf (parts : List Piece) : Nat := ((placeholders parts).map Placeholder.groups).sum

theorem groupsOf_literal (c : Char) (parts : List Piece) :
    groupsOf (.literal c :: parts) = groupsOf parts := rfl

theorem groupsOf_placeholder (name : List Char) (parts : List Piece) :
    groupsOf (.placeholder name :: parts) = (placeholderOf name).groups + groupsOf parts := by
  simp [groupsOf, placeholders]

/-- The parts of an expression are read one after another, each as a part that matches the same. -/
theorem exists_readFrom (parts : List Piece) (groups : Nat) :
    ∃ used, ∃ read : List Part, used ≤ (parts.flatMap Piece.source).length ∧
      (∀ part ∈ read, part.depth ≤ 6) ∧
      List.Forall₂ Tree.Agrees (read.map Part.tree) (treesFrom (groups + 1) parts) ∧
      ∀ rounds draft rest,
        readFrom (rounds + used) (plain draft [] groups) (parts.flatMap Piece.source ++ rest) =
          readFrom rounds (plain (read.foldl Draft.add draft) [] (groups + groupsOf parts)) rest := by
  induction parts generalizing groups with
  | nil => exact ⟨0, [], le_rfl, by simp, .nil, fun _ _ _ => rfl⟩
  | cons part parts ih =>
    cases part with
    | literal c =>
      obtain ⟨used, read, enough, shallow, agree, reads⟩ := ih groups
      have written : Piece.source (.literal c) = escape c := rfl
      refine ⟨used + 1, { tree := .literal [c] } :: read, ?_, ?_, .cons (.refl _) agree,
        fun rounds draft rest => ?_⟩
      · have nonempty : 0 < (escape c).length := by unfold escape; split <;> simp
        rw [List.flatMap_cons, List.length_append, written]
        omega
      · exact List.forall_mem_cons.mpr ⟨Nat.zero_le _, shallow⟩
      · rw [List.foldl_cons, groupsOf_literal, ← reads, List.flatMap_cons, List.append_assoc, written,
          ← Nat.add_assoc]
        unfold escape
        split
        next sign => exact readFrom_escaped sign
        next ordinary => exact readFrom_character (Bool.eq_false_iff.mpr ordinary)
    | placeholder name =>
      obtain ⟨own, depth, tree, enough, shallow, agrees, isRead⟩ :=
        (placeholderOf name).exists_isRead groups
      obtain ⟨used, read, enough', shallow', agree, reads⟩ := ih (groups + (placeholderOf name).groups)
      have written : Piece.source (.placeholder name) = (placeholderOf name).source.toList := rfl
      rw [Nat.add_right_comm] at agree
      refine ⟨used + own, { tree, depth } :: read, ?_, ?_, .cons agrees agree,
        fun rounds draft rest => ?_⟩
      · rw [List.flatMap_cons, List.length_append, written]
        omega
      · exact List.forall_mem_cons.mpr ⟨shallow, shallow'⟩
      · rw [List.foldl_cons, groupsOf_placeholder, ← Nat.add_assoc groups, ← reads,
          List.flatMap_cons, List.append_assoc, written, ← Nat.add_assoc rounds]
        exact isRead _ _ _

/-- What is written for an expression is read as an expression with as many groups that matches the
same. -/
theorem exists_parse?_source (parts : List Piece) :
    ∃ written, parse? (source parts) = some written ∧ written.groups = groupsOf parts ∧
      written.tree.Agrees (tree parts) := by
  obtain ⟨used, read, enough, shallow, agree, reads⟩ := exists_readFrom parts 0
  refine exists_parse?_anchored enough shallow agree fun rounds draft => ?_
  rw [reads, Nat.zero_add]

end Expression

end Acceptance
