import Acceptance.Proofs.Regex.Compile
import Mathlib.Computability.Language

/-!
# The language of an expression

An expression that holds no group passes no marks, and what it matches is told by the words that it
matches: it matches a text between two positions when a word of its language is spelled there. The
languages of written expressions are those of their parts, combined as languages are. A group around such
an expression passes its two marks, and its text is the word between them.
-/

namespace Acceptance.Regex

open Computability

/-- The language of one word. -/
def exactly (word : List Char) : Language Char := {other | other = word}

theorem mem_exactly {word other : List Char} : other ∈ exactly word ↔ other = word := Iff.rfl

/-- The words of one character of a set. -/
def letters (set : CharSet) : Language Char := {word | ∃ c, set.contains c = true ∧ word = [c]}

theorem mem_letters {set : CharSet} {word : List Char} :
    word ∈ letters set ↔ ∃ c, set.contains c = true ∧ word = [c] := Iff.rfl

theorem mem_letters_kstar {set : CharSet} {word : List Char} :
    word ∈ (letters set)∗ ↔ ∀ c ∈ word, set.contains c = true := by
  rw [Language.mem_kstar]
  constructor
  · rintro ⟨parts, rfl, single⟩ c mem
    obtain ⟨part, inside, mem⟩ := List.mem_flatten.mp mem
    obtain ⟨d, holds, rfl⟩ := single part inside
    rwa [List.mem_singleton.mp mem]
  · intro holds
    refine ⟨word.map fun c => [c], by simp [← List.flatMap_def], fun part mem => ?_⟩
    obtain ⟨c, inside, rfl⟩ := List.mem_map.mp mem
    exact ⟨c, holds c inside, rfl⟩

/-- The words of at least one character, all of a set. -/
theorem mem_letters_mul_kstar {set : CharSet} {word : List Char} :
    word ∈ letters set * (letters set)∗ ↔ word ≠ [] ∧ ∀ c ∈ word, set.contains c = true := by
  rw [Language.mem_mul]
  constructor
  · rintro ⟨_, ⟨c, holds, rfl⟩, others, inside, rfl⟩
    exact ⟨by simp, List.forall_mem_cons.mpr ⟨holds, mem_letters_kstar.mp inside⟩⟩
  · rintro ⟨nonempty, holds⟩
    obtain ⟨c, others, rfl⟩ := List.exists_cons_of_ne_nil nonempty
    obtain ⟨first, holds⟩ := List.forall_mem_cons.mp holds
    exact ⟨[c], ⟨c, first, rfl⟩, others, mem_letters_kstar.mpr holds, rfl⟩

namespace Tree

/-- An expression passes no marks and matches the words of a language. -/
def Denotes (tree : Tree) (language : Language Char) : Prop :=
  ∀ text i j marks, tree.Matches text i j marks ↔
    marks = [] ∧ ∃ word ∈ language, Spells text i j word

namespace Denotes

variable {left right body : Tree} {first second language : Language Char}

theorem oneOf (set : CharSet) : Denotes (.oneOf set) (letters set) := by
  intro text i j marks
  simp only [Tree.Matches, mem_letters]
  refine and_congr_right fun _ => ⟨?_, ?_⟩
  · rintro ⟨c, holds, spells⟩
    exact ⟨[c], ⟨c, holds, rfl⟩, spells⟩
  · rintro ⟨_, ⟨c, holds, rfl⟩, spells⟩
    exact ⟨c, holds, spells⟩

theorem literal (word : List Char) : Denotes (.literal word) (exactly word) := by
  intro text i j marks
  simp only [Tree.Matches]
  refine and_congr_right fun _ => ⟨fun spells => ⟨word, rfl, spells⟩, ?_⟩
  rintro ⟨_, rfl, spells⟩
  exact spells

theorem seq (hleft : left.Denotes first) (hright : right.Denotes second) :
    (Tree.seq left right).Denotes (first * second) := by
  intro text i j marks
  simp only [Tree.Matches, hleft text, hright text]
  constructor
  · rintro ⟨k, _, _, ⟨rfl, word, mem, spells⟩, ⟨rfl, more, mem', spells'⟩, rfl⟩
    exact ⟨rfl, word ++ more, Language.append_mem_mul mem mem',
      Spells.append_iff.mpr ⟨k, spells, spells'⟩⟩
  · rintro ⟨rfl, _, ⟨word, mem, more, mem', rfl⟩, spells⟩
    obtain ⟨k, spells, spells'⟩ := Spells.append_iff.mp spells
    exact ⟨k, [], [], ⟨rfl, word, mem, spells⟩, ⟨rfl, more, mem', spells'⟩, rfl⟩

/-- A number of rounds matches as many words one behind the other. -/
theorem rounds_iff (denotes : body.Denotes language) {text : List Char} {rounds i j : Nat}
    {marks : Marks} :
    Rounds (fun i j marks => body.Matches text i j marks) rounds i j marks ↔
      marks = [] ∧ ∃ word ∈ language ^ rounds, Spells text i j word := by
  induction rounds generalizing i marks with
  | zero =>
    simp only [Rounds.zero_iff, pow_zero, Language.mem_one, exists_eq_left, Spells.nil_iff]
    exact and_comm
  | succ rounds ih =>
    simp only [Rounds.succ_iff, ih, pow_succ']
    constructor
    · rintro ⟨k, _, _, round, ⟨rfl, more, mem', spells'⟩, rfl⟩
      obtain ⟨rfl, word, mem, spells⟩ := (denotes _ _ _ _).mp round
      exact ⟨rfl, word ++ more, Language.append_mem_mul mem mem',
        Spells.append_iff.mpr ⟨k, spells, spells'⟩⟩
    · rintro ⟨rfl, _, ⟨word, mem, more, mem', rfl⟩, spells⟩
      obtain ⟨k, spells, spells'⟩ := Spells.append_iff.mp spells
      exact ⟨k, [], [], (denotes _ _ _ _).mpr ⟨rfl, word, mem, spells⟩,
        ⟨rfl, more, mem', spells'⟩, rfl⟩

/-- A repetition matches the words of the numbers of rounds that it allows. -/
theorem repetition {least : Nat} {most : Option Nat} (denotes : body.Denotes language)
    (rounds : ∀ word, word ∈ first ↔ ∃ rounds, least ≤ rounds ∧
      (∀ bound, most = some bound → rounds ≤ max least bound) ∧ word ∈ language ^ rounds)
    (greedy : Bool) : (Tree.repetition least most greedy body).Denotes first := by
  intro text i j marks
  simp only [Tree.Matches, denotes.rounds_iff, rounds]
  constructor
  · rintro ⟨rounds, atLeast, atMost, rfl, word, mem, spells⟩
    exact ⟨rfl, word, ⟨rounds, atLeast, atMost, mem⟩, spells⟩
  · rintro ⟨rfl, word, ⟨rounds, atLeast, atMost, mem⟩, spells⟩
    exact ⟨rounds, atLeast, atMost, rfl, word, mem, spells⟩

theorem anyRounds (denotes : body.Denotes language) (greedy : Bool) :
    (Tree.repetition 0 none greedy body).Denotes language∗ := by
  refine denotes.repetition (fun word => ?_) greedy
  rw [Language.kstar_eq_iSup_pow, Language.mem_iSup]
  simp

theorem zeroOrMore (denotes : body.Denotes language) : (Tree.zeroOrMore body).Denotes language∗ :=
  denotes.anyRounds true

theorem oneOrMore (denotes : body.Denotes language) :
    (Tree.oneOrMore body).Denotes (language * language∗) := by
  refine denotes.repetition (fun word => ?_) true
  rw [Language.kstar_eq_iSup_pow, Language.mul_iSup, Language.mem_iSup]
  simp only [← pow_succ', reduceCtorEq, false_implies, implies_true, true_and]
  constructor
  · rintro ⟨rounds, mem⟩
    exact ⟨rounds + 1, by omega, mem⟩
  · rintro ⟨rounds, atLeast, mem⟩
    obtain ⟨more, rfl⟩ := Nat.exists_eq_add_of_le' atLeast
    exact ⟨more, mem⟩

theorem optional (denotes : body.Denotes language) :
    (Tree.optional body).Denotes (language + 1) := by
  refine denotes.repetition (fun word => ?_) true
  rw [Language.mem_add, Language.mem_one]
  constructor
  · rintro (mem | rfl)
    · exact ⟨1, by simp, by simp, by rwa [pow_one]⟩
    · exact ⟨0, by simp, by simp, by rw [pow_zero]; rfl⟩
  · rintro ⟨_ | _ | rounds, -, atMost, mem⟩
    · exact .inr (by rwa [pow_zero] at mem)
    · exact .inl (by rwa [zero_add, pow_one] at mem)
    · have := atMost 1 rfl
      omega

end Denotes

/-- A set with a character takes one wherever it matches. -/
theorem takesSome_oneOf {set : CharSet} {c : Char} (inside : set.contains c = true) :
    (Tree.oneOf set).takesSome = true := by
  simp [takesSome, leastLength, CharSet.isEmpty_eq_false inside]

end Tree

section Groups

variable {text word : List Char} {i j number : Nat} {marks : Marks}

/-- The marks of a group that lies between two positions. -/
def Marks.around (number i j : Nat) : Marks := [(2 * number + 1, j), (2 * number, i)]

theorem half_of_mem_around {mark : Nat × Nat} (mem : mark ∈ Marks.around number i j) :
    mark.1 / 2 = number := by
  simp only [Marks.around, List.mem_cons, List.not_mem_nil, or_false] at mem
  rcases mem with rfl | rfl <;> simp only <;> omega

theorem matches_group {body : Tree} {language : Language Char} (denotes : body.Denotes language) :
    (Tree.group number body).Matches text i j marks ↔
      marks = .around number i j ∧ ∃ word ∈ language, Spells text i j word := by
  simp only [Tree.Matches, denotes text]
  constructor
  · rintro ⟨_, ⟨rfl, spelled⟩, rfl⟩
    exact ⟨rfl, spelled⟩
  · rintro ⟨rfl, spelled⟩
    exact ⟨[], ⟨rfl, spelled⟩, rfl⟩

/-- The text of a group is the word between its marks, whatever was passed before. -/
theorem group_around (spells : Spells text i j word) (number : Nat) (earlier : Marks) :
    group text (.around number i j ++ earlier) number = some word := by
  have apart : (2 * number == 2 * number + 1) = false := beq_false_of_ne (by omega)
  simp [group, Marks.around, List.lookup_cons, apart, spells.take_drop]

/-- The marks of other groups do not matter to a group. -/
theorem group_append {later : Marks} (others : ∀ mark ∈ later, mark.1 / 2 ≠ number)
    (marks : Marks) : group text (later ++ marks) number = group text marks number := by
  have absent (slot : Nat) (half : slot / 2 = number) : later.lookup slot = none := by
    refine List.lookup_eq_none_iff.mpr fun mark mem => ?_
    refine bne_iff_ne.mpr fun same => others mark mem ?_
    rw [← half, same]
  simp only [group, List.lookup_append, absent (2 * number) (by omega),
    absent (2 * number + 1) (by omega), Option.none_or]

theorem group_eq_none (others : ∀ mark ∈ marks, mark.1 / 2 ≠ number) :
    group text marks number = none := by
  rw [← List.append_nil marks, group_append others]
  rfl

end Groups

end Acceptance.Regex
