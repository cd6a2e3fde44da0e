import Acceptance.Pattern
import Acceptance.Proofs.Regex.Language

/-!
# Placeholders

The texts that stand for a value of a placeholder, and that the expression of a placeholder matches them
and no others. Of its groups exactly one takes part in a match, and it lies around the value.
-/

namespace Acceptance

open Computability Regex

namespace Placeholder

/-- A text that stands for a value of a placeholder. -/
inductive Reads : Placeholder → List Char → List Char → Prop
  | string {quote value} (kind : quote = '"' ∨ quote = '\'') (inside : quote ∉ value) :
    Reads .string (quote :: (value ++ [quote])) value
  | int {digits} (nonempty : digits ≠ [])
    (decimal : ∀ c ∈ digits, Unicode.decimalNumber.contains c = true) : Reads .int digits digits
  | float {value sign whole point fraction} (written : value = sign ++ (whole ++ (point ++ fraction)))
    (signed : sign = [] ∨ sign = ['+'] ∨ sign = ['-'])
    (decimal : ∀ c ∈ whole, Unicode.decimalNumber.contains c = true)
    (pointed : point = [] ∨ point = ['.']) (nonempty : fraction ≠ [])
    (decimal' : ∀ c ∈ fraction, Unicode.decimalNumber.contains c = true) : Reads .float value value
  | word {value} (nonempty : value ≠ []) (inside : ∀ c ∈ value, Unicode.word.contains c = true) :
    Reads .word value value
  | anything {value} (line : '\n' ∉ value) : Reads .anything value value

theorem contains_decimalNumber_zero : Unicode.decimalNumber.contains '0' = true :=
  CharSet.contains_ofRanges.mpr ⟨_, List.mem_cons_self, by decide, by decide⟩

theorem contains_word_zero : Unicode.word.contains '0' = true :=
  CharSet.contains_unions.mpr ⟨Unicode.decimalNumber, by simp, contains_decimalNumber_zero⟩

theorem denotes_float :
    (Tree.chain [.optional (.oneOf (.ofList ['+', '-'])),
      .zeroOrMore (.oneOf Unicode.decimalNumber), .optional (.literal ['.']),
      .oneOrMore (.oneOf Unicode.decimalNumber)]).Denotes
        ((letters (.ofList ['+', '-']) + 1) * ((letters Unicode.decimalNumber)∗ *
          ((exactly ['.'] + 1) *
            (letters Unicode.decimalNumber * (letters Unicode.decimalNumber)∗)))) :=
  (Tree.Denotes.oneOf _).optional.seq <| (Tree.Denotes.oneOf _).zeroOrMore.seq <|
    (Tree.Denotes.literal _).optional.seq (Tree.Denotes.oneOf _).oneOrMore

theorem mem_letters_compl_kstar {c : Char} {word : List Char} :
    word ∈ (letters (CharSet.single c).compl)∗ ↔ c ∉ word := by
  simp only [mem_letters_kstar, CharSet.contains_compl_single]
  exact ⟨fun others mem => others c mem rfl, fun absent d mem eq => absent (eq ▸ mem)⟩

/-- A placeholder whose values are the texts themselves: its expression is one group around the words of
a language. -/
structure IsPlain (placeholder : Placeholder) (body : Tree) (language : Language Char) : Prop where
  tree : ∀ first, placeholder.tree first = .group first body
  groups : placeholder.groups = 1
  denotes : body.Denotes language
  reads : ∀ word value, placeholder.Reads word value ↔ word = value ∧ word ∈ language

theorem mem_sign {word : List Char} :
    word ∈ letters (.ofList ['+', '-']) + 1 ↔ word = [] ∨ word = ['+'] ∨ word = ['-'] := by
  rw [Language.mem_add, Language.mem_one, mem_letters, or_comm]
  simp

theorem mem_point {word : List Char} :
    word ∈ exactly ['.'] + 1 ↔ word = [] ∨ word = ['.'] := by
  rw [Language.mem_add, Language.mem_one, mem_exactly, or_comm]

theorem isPlain_int : ∃ body language, IsPlain .int body language := by
  refine ⟨_, _, fun _ => rfl, rfl, (Tree.Denotes.oneOf _).oneOrMore, fun word value => ?_⟩
  rw [mem_letters_mul_kstar]
  constructor
  · rintro ⟨⟩
    exact ⟨rfl, ‹_›, ‹_›⟩
  · rintro ⟨rfl, nonempty, decimal⟩
    exact .int nonempty decimal

theorem isPlain_word : ∃ body language, IsPlain .word body language := by
  refine ⟨_, _, fun _ => rfl, rfl, (Tree.Denotes.oneOf _).oneOrMore, fun word value => ?_⟩
  rw [mem_letters_mul_kstar]
  constructor
  · rintro ⟨⟩
    exact ⟨rfl, ‹_›, ‹_›⟩
  · rintro ⟨rfl, nonempty, inside⟩
    exact .word nonempty inside

theorem isPlain_anything : ∃ body language, IsPlain .anything body language := by
  refine ⟨_, _, fun _ => rfl, rfl, (Tree.Denotes.oneOf _).anyRounds false, fun word value => ?_⟩
  rw [mem_letters_compl_kstar]
  constructor
  · rintro ⟨⟩
    exact ⟨rfl, ‹_›⟩
  · rintro ⟨rfl, line⟩
    exact .anything line

theorem isPlain_float : ∃ body language, IsPlain .float body language := by
  refine ⟨_, _, fun _ => rfl, rfl, denotes_float, fun word value => ?_⟩
  constructor
  · intro reads
    cases reads with
    | float written signed decimal pointed nonempty decimal' =>
      exact ⟨rfl, Language.mem_mul.mpr ⟨_, mem_sign.mpr signed, _,
        Language.mem_mul.mpr ⟨_, mem_letters_kstar.mpr decimal, _,
          Language.mem_mul.mpr ⟨_, mem_point.mpr pointed, _,
            mem_letters_mul_kstar.mpr ⟨nonempty, decimal'⟩, rfl⟩, rfl⟩, written.symm⟩⟩
  · rintro ⟨rfl, mem⟩
    obtain ⟨sign, signed, unsigned, mem', written⟩ := Language.mem_mul.mp mem
    obtain ⟨whole, decimal, behind, mem'', rfl⟩ := Language.mem_mul.mp mem'
    obtain ⟨point, pointed, fraction, digits, rfl⟩ := Language.mem_mul.mp mem''
    obtain ⟨nonempty, decimal'⟩ := mem_letters_mul_kstar.mp digits
    exact .float written.symm (mem_sign.mp signed) (mem_letters_kstar.mp decimal)
      (mem_point.mp pointed) nonempty decimal'

theorem exists_isPlain {placeholder : Placeholder} (other : placeholder ≠ .string) :
    ∃ body language, IsPlain placeholder body language := by
  cases placeholder with
  | string => exact absurd rfl other
  | int => exact isPlain_int
  | float => exact isPlain_float
  | word => exact isPlain_word
  | anything => exact isPlain_anything

section Matches

variable {text : List Char} {i j first : Nat} {marks : Marks} {placeholder : Placeholder}

/-- A quoted text is matched with the marks of the group around what lies between the quotes. -/
theorem matches_quoted {quote : Char} :
    (quoted quote first).Matches text i j marks ↔
      ∃ k l value, quote ∉ value ∧ Spells text i k [quote] ∧ Spells text k l value ∧
        Spells text l j [quote] ∧ marks = .around first k l := by
  have inner {k l : Nat} {marks : Marks} :
      (Tree.group first (.zeroOrMore (.oneOf (CharSet.single quote).compl))).Matches text k l marks ↔
        marks = .around first k l ∧ ∃ word, quote ∉ word ∧ Spells text k l word := by
    rw [matches_group (Tree.Denotes.oneOf _).zeroOrMore]
    simp only [mem_letters_compl_kstar]
  constructor
  · rintro ⟨k, _, _, ⟨rfl, opens⟩, ⟨l, _, _, between, ⟨rfl, closes⟩, rfl⟩, rfl⟩
    obtain ⟨rfl, value, inside, spells⟩ := inner.mp between
    exact ⟨k, l, value, inside, opens, spells, closes, by simp⟩
  · rintro ⟨k, l, value, inside, opens, spells, closes, rfl⟩
    exact ⟨k, _, _, ⟨rfl, opens⟩,
      ⟨l, _, _, inner.mpr ⟨rfl, value, inside, spells⟩, ⟨rfl, closes⟩, rfl⟩, by simp⟩

theorem spells_quoted {quote : Char} {value : List Char} :
    Spells text i j (quote :: (value ++ [quote])) ↔
      ∃ k l, Spells text i k [quote] ∧ Spells text k l value ∧ Spells text l j [quote] := by
  rw [Spells.cons_iff]
  simp only [Spells.append_iff, exists_and_left]

/-- A text stands for a value between two positions, and marks are those of a group around the value,
one of the groups of a placeholder. -/
structure Placed (text : List Char) (placeholder : Placeholder) (first i j : Nat) (value : List Char)
    (marks : Marks) : Prop where
  reads : ∃ word, placeholder.Reads word value ∧ Spells text i j word
  around : ∃ number start stop, first ≤ number ∧ number < first + placeholder.groups ∧
    Spells text start stop value ∧ marks = .around number start stop

/-- What the expression of a placeholder matches stands for a value, with marks around it. -/
theorem placed_of_matches
    (matched : (placeholder.tree first).Matches text i j marks) :
    ∃ value, Placed text placeholder first i j value marks := by
  by_cases kind : placeholder = .string
  · subst kind
    rcases matched with taken | taken
    · obtain ⟨k, l, value, inside, opens, spells, closes, rfl⟩ :=
        matches_quoted.mp taken
      exact ⟨value, ⟨_, .string (.inl rfl) inside, spells_quoted.mpr ⟨k, l, opens, spells, closes⟩⟩,
        first, k, l, Nat.le_refl _, by simp [groups], spells, rfl⟩
    · obtain ⟨k, l, value, inside, opens, spells, closes, rfl⟩ :=
        matches_quoted.mp taken
      exact ⟨value, ⟨_, .string (.inr rfl) inside, spells_quoted.mpr ⟨k, l, opens, spells, closes⟩⟩,
        first + 1, k, l, by simp, by simp [groups], spells, rfl⟩
  · obtain ⟨body, language, plain⟩ := exists_isPlain kind
    rw [plain.tree] at matched
    obtain ⟨rfl, word, mem, spells⟩ := (matches_group plain.denotes).mp matched
    exact ⟨word, ⟨word, (plain.reads _ _).mpr ⟨rfl, mem⟩, spells⟩, first, i, j, Nat.le_refl _,
      by simp [plain.groups], spells, rfl⟩

/-- Every text of a placeholder is matched. -/
theorem exists_matches {word value : List Char} (reads : placeholder.Reads word value)
    (spells : Spells text i j word) :
    ∃ marks, (placeholder.tree first).Matches text i j marks := by
  by_cases kind : placeholder = .string
  · subst kind
    cases reads with
    | string kind inside =>
      obtain ⟨k, l, opens, between, closes⟩ := spells_quoted.mp spells
      rcases kind with rfl | rfl
      · exact ⟨_, .inl (matches_quoted.mpr
          ⟨k, l, value, inside, opens, between, closes, rfl⟩)⟩
      · exact ⟨_, .inr (matches_quoted.mpr
          ⟨k, l, value, inside, opens, between, closes, rfl⟩)⟩
  · obtain ⟨body, language, plain⟩ := exists_isPlain kind
    obtain ⟨rfl, mem⟩ := (plain.reads _ _).mp reads
    rw [plain.tree]
    exact ⟨_, (matches_group plain.denotes).mpr ⟨rfl, word, mem, spells⟩⟩

theorem takesSome_without {c d : Char} (other : d ≠ c) :
    (Tree.oneOf (CharSet.single c).compl).takesSome = true :=
  Tree.takesSome_oneOf (CharSet.contains_compl_single.mpr other)

/-- The loops of a placeholder take a character in each round. -/
theorem loopsTake_tree (placeholder : Placeholder) (first : Nat) :
    (placeholder.tree first).LoopsTake := by
  have digits := Tree.takesSome_oneOf contains_decimalNumber_zero
  have letter := Tree.takesSome_oneOf contains_word_zero
  have double := takesSome_without (by decide : '\'' ≠ '"')
  have single := takesSome_without (by decide : '"' ≠ '\'')
  have line := takesSome_without (by decide : 'a' ≠ '\n')
  cases placeholder <;>
    simp [tree, quoted, Tree.chain, Tree.LoopsTake, Tree.oneOrMore, Tree.zeroOrMore, Tree.optional,
      digits, letter, double, single, line]

theorem Placed.half_mem {value : List Char}
    (placed : Placed text placeholder first i j value marks) {mark : Nat × Nat}
    (mem : mark ∈ marks) : first ≤ mark.1 / 2 ∧ mark.1 / 2 < first + placeholder.groups := by
  obtain ⟨number, start, stop, atLeast, below, -, rfl⟩ := placed.around
  rw [half_of_mem_around mem]
  exact ⟨atLeast, below⟩

/-- The value is the text of the first group that took part, when the groups passed before are of
earlier placeholders and those passed behind of later ones. -/
theorem Placed.findSome?_group {value : List Char}
    (placed : Placed text placeholder first i j value marks) {earlier later : Marks}
    (lower : ∀ mark ∈ earlier, mark.1 / 2 < first)
    (upper : ∀ mark ∈ later, first + placeholder.groups ≤ mark.1 / 2) :
    ((List.range placeholder.groups).findSome? fun offset =>
      group text (later ++ (marks ++ earlier)) (first + offset)) = some value := by
  obtain ⟨number, start, stop, atLeast, below, spells, rfl⟩ := placed.around
  obtain ⟨offset, rfl⟩ := Nat.exists_eq_add_of_le atLeast
  obtain ⟨more, eq⟩ := Nat.exists_eq_add_of_lt (Nat.lt_of_add_lt_add_left below)
  refine List.findSome?_eq_some_iff.mpr
    ⟨List.range offset, offset, (List.range more).map (offset + · + 1), ?_, ?_, fun smaller mem => ?_⟩
  · rw [eq, Nat.add_assoc, List.range_add, List.range_succ_eq_map]
    simp [Function.comp_def, Nat.add_assoc]
  · rw [group_append fun mark inside => by have := upper mark inside; omega]
    exact group_around spells _ _
  · have less := List.mem_range.mp mem
    rw [group_append fun mark inside => by have := upper mark inside; omega,
      group_append fun mark inside => by have := half_of_mem_around inside; omega]
    exact group_eq_none fun mark inside => by have := lower mark inside; omega

end Matches

end Placeholder

end Acceptance
