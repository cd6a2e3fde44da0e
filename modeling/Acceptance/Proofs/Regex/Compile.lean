import Acceptance.Proofs.CharSet
import Acceptance.Proofs.Regex.Match
import Acceptance.Proofs.Regex.Place

/-!
# What a written expression matches

The relation between an expression as it is written and the parts of a text that it matches. Compiling an
expression keeps what it matches, wherever its places are numbered from, and gives it no nodes where its
loops take a character in every round.
-/

namespace Acceptance.Regex

/-- A word is spelled between two positions of a text. -/
structure Spells (text : List Char) (i j : Nat) (word : List Char) : Prop where
  drop : text.drop i = word ++ text.drop j
  length : j = i + word.length

namespace Spells

variable {text word more : List Char} {i j k : Nat}

theorem nil (text : List Char) (i : Nat) : Spells text i i [] := ⟨rfl, rfl⟩

theorem of_drop {behind : List Char} (drop : text.drop i = word ++ behind) :
    Spells text i (i + word.length) word := by
  refine ⟨?_, rfl⟩
  rw [← List.drop_drop, drop, List.drop_left]

theorem nil_iff : Spells text i j [] ↔ j = i := by
  constructor
  · exact fun spells => spells.length
  · rintro rfl
    exact .nil text j

theorem singleton_iff {c : Char} : Spells text i j [c] ↔ text[i]? = some c ∧ j = i + 1 := by
  constructor
  · intro ⟨drop, length⟩
    refine ⟨?_, length⟩
    rw [← List.head?_drop, drop]
    rfl
  · rintro ⟨next, rfl⟩
    obtain ⟨inside, rfl⟩ := List.getElem?_eq_some_iff.mp next
    exact ⟨List.drop_eq_getElem_cons inside, rfl⟩

/-- A word is spelled in two parts one behind the other. -/
theorem append_iff : Spells text i k (word ++ more) ↔
    ∃ j, Spells text i j word ∧ Spells text j k more := by
  constructor
  · intro ⟨drop, length⟩
    rw [List.append_assoc] at drop
    rw [List.length_append] at length
    have first : Spells text i (i + word.length) word := .of_drop drop
    exact ⟨_, first, List.append_cancel_left (first.drop.symm.trans drop), by omega⟩
  · rintro ⟨j, first, second⟩
    refine ⟨?_, ?_⟩
    · rw [first.drop, second.drop, List.append_assoc]
    · rw [second.length, first.length, List.length_append]
      omega

theorem cons_iff {c : Char} :
    Spells text i k (c :: word) ↔ ∃ j, Spells text i j [c] ∧ Spells text j k word :=
  @append_iff text [c] word i k

/-- The word is what lies between the positions. -/
theorem take_drop (spells : Spells text i j word) : (text.drop i).take (j - i) = word := by
  rw [spells.drop, spells.length, Nat.add_sub_cancel_left, List.take_left]

end Spells

/-- A number of rounds one behind the other, with the marks that they pass, the latest first. -/
inductive Rounds (round : Nat → Nat → Marks → Prop) : Nat → Nat → Nat → Marks → Prop
  | zero {i} : Rounds round 0 i i []
  | succ {rounds i j k marks later} (first : round i j marks)
    (others : Rounds round rounds j k later) : Rounds round (rounds + 1) i k (later ++ marks)

namespace Rounds

variable {round : Nat → Nat → Marks → Prop} {rounds more i j : Nat} {marks : Marks}

theorem zero_iff : Rounds round 0 i j marks ↔ j = i ∧ marks = [] := by
  constructor
  · rintro ⟨⟩
    exact ⟨rfl, rfl⟩
  · rintro ⟨rfl, rfl⟩
    exact .zero

theorem succ_iff : Rounds round (rounds + 1) i j marks ↔
    ∃ k earlier later, round i k earlier ∧ Rounds round rounds k j later ∧
      marks = later ++ earlier := by
  constructor
  · rintro ⟨⟩
    exact ⟨_, _, _, ‹_›, ‹_›, rfl⟩
  · rintro ⟨k, earlier, later, first, others, rfl⟩
    exact .succ first others

theorem add_iff : Rounds round (rounds + more) i j marks ↔
    ∃ k earlier later, Rounds round rounds i k earlier ∧ Rounds round more k j later ∧
      marks = later ++ earlier := by
  induction rounds generalizing i marks with
  | zero =>
    simp only [Nat.zero_add, zero_iff]
    constructor
    · exact fun others => ⟨i, [], marks, ⟨rfl, rfl⟩, others, by simp⟩
    · rintro ⟨_, _, later, ⟨rfl, rfl⟩, others, rfl⟩
      simpa using others
  | succ rounds ih =>
    simp only [Nat.add_right_comm rounds 1 more, succ_iff, ih]
    constructor
    · rintro ⟨k, earlier, _, first, ⟨l, between, later, others, rest, rfl⟩, rfl⟩
      exact ⟨l, _, later, ⟨k, earlier, between, first, others, rfl⟩, rest, by simp⟩
    · rintro ⟨l, _, later, ⟨k, earlier, between, first, others, rfl⟩, rest, rfl⟩
      exact ⟨k, earlier, _, first, ⟨l, between, later, others, rest, rfl⟩, by simp⟩

end Rounds

/-- A written expression matches a text between two positions and passes marks there, the latest
first. -/
def Tree.Matches (text : List Char) : Tree → Nat → Nat → Marks → Prop
  | .empty, i, j, marks => j = i ∧ marks = []
  | .look condition, i, j, marks =>
    condition.holds (neighbours text i) = true ∧ j = i ∧ marks = []
  | .literal word, i, j, marks => marks = [] ∧ Spells text i j word
  | .oneOf set, i, j, marks => marks = [] ∧ ∃ c, set.contains c = true ∧ Spells text i j [c]
  | .group number body, i, j, marks =>
    ∃ inner, body.Matches text i j inner ∧ marks = (2 * number + 1, j) :: (inner ++ [(2 * number, i)])
  | .seq left right, i, j, marks =>
    ∃ k earlier later, left.Matches text i k earlier ∧ right.Matches text k j later ∧
      marks = later ++ earlier
  | .alt left right, i, j, marks => left.Matches text i j marks ∨ right.Matches text i j marks
  | .repetition least most _ body, i, j, marks =>
    ∃ rounds, least ≤ rounds ∧ (∀ bound, most = some bound → rounds ≤ max least bound) ∧
      Rounds (fun i j marks => body.Matches text i j marks) rounds i j marks

/-- Every loop without an upper bound takes a character in each round. -/
def Tree.LoopsTake : Tree → Prop
  | .empty | .look _ | .literal _ | .oneOf _ => True
  | .group _ body => body.LoopsTake
  | .seq left right => left.LoopsTake ∧ right.LoopsTake
  | .alt left right => left.LoopsTake ∧ right.LoopsTake
  | .repetition _ most _ body => (most = none → body.takesSome = true) ∧ body.LoopsTake

section Compile

variable {text : List Char} {i j : Nat} {marks : Marks}

theorem matches_one_iff {set : CharSet} {place : Nat} :
    Matches text (.one place set) i j marks ↔
      marks = [] ∧ ∃ c, set.contains c = true ∧ Spells text i j [c] := by
  simp only [matches_one, Spells.singleton_iff]
  constructor
  · rintro ⟨c, next, inside, rfl, rfl⟩
    exact ⟨rfl, c, inside, next, rfl⟩
  · rintro ⟨rfl, c, inside, next, rfl⟩
    exact ⟨c, next, inside, rfl, rfl⟩

theorem matches_single {c : Char} {place : Nat} :
    Matches text (.one place (.single c)) i j marks ↔ marks = [] ∧ Spells text i j [c] := by
  simp only [matches_one_iff, CharSet.contains_single, exists_eq_left]

theorem matches_spell {word : List Char} {place : Nat} :
    Matches text (Tree.spell place word) i j marks ↔ marks = [] ∧ Spells text i j word := by
  induction word generalizing place i marks with
  | nil => rw [Tree.spell, matches_empty, Spells.nil_iff, and_comm]
  | cons c word ih =>
    cases word with
    | nil => exact matches_single
    | cons d word =>
      rw [Tree.spell_cons_cons, matches_seq, Spells.cons_iff]
      constructor
      · rintro ⟨k, _, _, first, others, rfl⟩
        obtain ⟨rfl, spells⟩ := matches_single.mp first
        obtain ⟨rfl, spells'⟩ := ih.mp others
        exact ⟨rfl, k, spells, spells'⟩
      · rintro ⟨rfl, k, spells, spells'⟩
        exact ⟨k, [], [], matches_single.mpr ⟨rfl, spells⟩, ih.mpr ⟨rfl, spells'⟩, rfl⟩

section Loops

variable {round : Nat → Regex} {body : Regex} {meaning : Nat → Nat → Marks → Prop}

theorem matches_again {node : Option Nat} {greedy : Bool}
    (means : ∀ i j marks, Matches text body i j marks ↔ meaning i j marks) :
    Matches text (.again node greedy body) i j marks ↔
      ∃ rounds, Rounds meaning rounds i j marks := by
  constructor
  · generalize eq : Regex.again node greedy body = loop
    intro matched
    induction matched with
    | done => exact ⟨0, .zero⟩
    | more first others _ ih =>
      cases eq
      obtain ⟨rounds, rest⟩ := ih rfl
      exact ⟨rounds + 1, .succ ((means _ _ _).mp first) rest⟩
    | _ => cases eq
  · rintro ⟨rounds, matched⟩
    induction matched with
    | zero => exact .done
    | succ first others ih => exact .more ((means _ _ _).mpr first) ih

/-- A round before a loop. -/
theorem matches_seq_again {node : Option Nat} {greedy : Bool}
    (means : ∀ i j marks, Matches text body i j marks ↔ meaning i j marks) :
    Matches text (.seq body (.again node greedy body)) i j marks ↔
      ∃ rounds, Rounds meaning (rounds + 1) i j marks := by
  simp only [matches_seq, matches_again means, means, Rounds.succ_iff]
  constructor
  · rintro ⟨k, earlier, later, first, ⟨rounds, others⟩, rfl⟩
    exact ⟨rounds, k, earlier, later, first, others, rfl⟩
  · rintro ⟨rounds, k, earlier, later, first, others, rfl⟩
    exact ⟨k, earlier, later, first, ⟨rounds, others⟩, rfl⟩

theorem matches_unroll (means : ∀ place i j marks, Matches text (round place) i j marks ↔
      meaning i j marks) {width place rounds : Nat} {last : Regex} :
    Matches text (Tree.unroll round width place rounds last) i j marks ↔
      ∃ k earlier later, Rounds meaning rounds i k earlier ∧ Matches text last k j later ∧
        marks = later ++ earlier := by
  induction rounds generalizing place i marks with
  | zero =>
    simp only [Rounds.zero_iff]
    constructor
    · exact fun matched => ⟨i, [], marks, ⟨rfl, rfl⟩, matched, by simp⟩
    · rintro ⟨_, _, later, ⟨rfl, rfl⟩, matched, rfl⟩
      rwa [List.append_nil]
  | succ rounds ih =>
    simp only [Tree.unroll_succ, matches_seq, ih, means, Rounds.succ_iff]
    constructor
    · rintro ⟨k, earlier, _, first, ⟨l, between, later, others, rest, rfl⟩, rfl⟩
      exact ⟨l, _, later, ⟨k, earlier, between, first, others, rfl⟩, rest, by simp⟩
    · rintro ⟨l, _, later, ⟨k, earlier, between, first, others, rfl⟩, rest, rfl⟩
      exact ⟨k, earlier, _, first, ⟨l, between, later, others, rest, rfl⟩, by simp⟩

theorem matches_choose {node : Option Nat} {greedy : Bool} :
    Matches text (Tree.choose node greedy body) i j marks ↔
      Matches text body i j marks ∨ j = i ∧ marks = [] := by
  cases greedy <;> simp [Tree.choose, matches_alt, or_comm]

theorem matches_atMost (means : ∀ place i j marks, Matches text (round place) i j marks ↔
      meaning i j marks) {cyclic greedy : Bool} {width place most : Nat} :
    Matches text (Tree.atMost cyclic greedy round width place most) i j marks ↔
      ∃ rounds, rounds ≤ most ∧ Rounds meaning rounds i j marks := by
  induction most generalizing place i marks with
  | zero =>
    simp only [Nat.le_zero, exists_eq_left, Rounds.zero_iff]
    exact matches_empty
  | succ most ih =>
    simp only [Tree.atMost_succ, matches_choose, matches_seq, ih, means]
    constructor
    · rintro (⟨k, earlier, later, first, ⟨rounds, le, others⟩, rfl⟩ | ⟨rfl, rfl⟩)
      · exact ⟨rounds + 1, Nat.succ_le_succ le, .succ first others⟩
      · exact ⟨0, Nat.zero_le _, .zero⟩
    · rintro ⟨rounds, le, matched⟩
      cases matched with
      | zero => exact .inr ⟨rfl, rfl⟩
      | succ first others =>
        exact .inl ⟨_, _, _, first, ⟨_, Nat.le_of_succ_le_succ le, others⟩, rfl⟩

end Loops

/-- Compiling keeps what an expression matches, wherever its places are numbered from. -/
theorem matches_compileFrom {tree : Tree} {cyclic : Bool} {place : Nat} :
    Matches text (tree.compileFrom cyclic place) i j marks ↔ tree.Matches text i j marks := by
  induction tree generalizing cyclic place i j marks with
  | empty => exact matches_empty
  | look => exact matches_look
  | literal word => exact matches_spell
  | oneOf set => exact matches_one_iff
  | group number body ih =>
    simp only [Tree.compileFrom, Tree.Matches, matches_seq, matches_mark, ih]
    constructor
    · rintro ⟨_, _, _, ⟨rfl, rfl⟩, ⟨_, inner, _, matched, ⟨rfl, rfl⟩, rfl⟩, rfl⟩
      exact ⟨inner, matched, rfl⟩
    · rintro ⟨inner, matched, rfl⟩
      exact ⟨i, _, _, ⟨rfl, rfl⟩, ⟨j, inner, _, matched, ⟨rfl, rfl⟩, rfl⟩, rfl⟩
  | seq left right ihLeft ihRight =>
    simp only [Tree.compileFrom, Tree.Matches, matches_seq, ihLeft, ihRight]
  | alt left right ihLeft ihRight =>
    simp only [Tree.compileFrom, Tree.Matches, matches_alt, ihLeft, ihRight]
  | repetition least most greedy body ih =>
    have means (cyclic : Bool) (place i j : Nat) (marks : Marks) :
        Matches text (body.compileFrom cyclic place) i j marks ↔ body.Matches text i j marks := ih
    cases most with
    | none =>
      have unbounded : Tree.Matches text (.repetition least none greedy body) i j marks ↔
          ∃ more, Rounds (fun i j marks => body.Matches text i j marks) (least + more) i j marks := by
        simp only [Tree.Matches, reduceCtorEq, false_implies, implies_true, true_and]
        constructor
        · rintro ⟨rounds, le, matched⟩
          exact ⟨rounds - least, by rwa [Nat.add_sub_cancel' le]⟩
        · rintro ⟨more, matched⟩
          exact ⟨_, Nat.le_add_right _ _, matched⟩
      rw [unbounded]
      simp only [Tree.compileFrom]
      split
      next never =>
        subst never
        simp only [Nat.zero_add]
        split
        · exact matches_again (means _ _)
        -- A loop that may take nothing is compiled as one or more rounds or none.
        · rw [matches_choose, matches_seq_again (means _ _)]
          constructor
          · rintro (⟨rounds, matched⟩ | ⟨rfl, rfl⟩)
            · exact ⟨_, matched⟩
            · exact ⟨0, .zero⟩
          · rintro ⟨_ | rounds, matched⟩
            · exact .inr (Rounds.zero_iff.mp matched)
            · exact .inl ⟨rounds, matched⟩
      next atLeast =>
        obtain ⟨before, rfl⟩ := Nat.exists_eq_succ_of_ne_zero atLeast
        have regroup (more : Nat) : before + 1 + more = before + (more + 1) := by omega
        simp only [Nat.succ_eq_add_one, Nat.add_sub_cancel, matches_unroll (means _),
          matches_seq_again (means _ _), regroup]
        constructor
        · rintro ⟨k, earlier, later, required, ⟨more, others⟩, rfl⟩
          exact ⟨more, Rounds.add_iff.mpr ⟨k, earlier, later, required, others, rfl⟩⟩
        · rintro ⟨more, matched⟩
          obtain ⟨k, earlier, later, required, others, rfl⟩ := Rounds.add_iff.mp matched
          exact ⟨k, earlier, later, required, ⟨more, others⟩, rfl⟩
    | some most =>
      simp only [Tree.compileFrom, Tree.Matches, matches_unroll (means cyclic),
        matches_atMost (means cyclic), Option.some.injEq, forall_eq']
      constructor
      · rintro ⟨k, earlier, later, required, ⟨more, le, others⟩, rfl⟩
        exact ⟨least + more, Nat.le_add_right _ _, by omega,
          Rounds.add_iff.mpr ⟨k, earlier, later, required, others, rfl⟩⟩
      · rintro ⟨rounds, least', most', matched⟩
        obtain ⟨more, rfl⟩ := Nat.exists_eq_add_of_le least'
        obtain ⟨k, earlier, later, required, others, rfl⟩ := Rounds.add_iff.mp matched
        exact ⟨k, earlier, later, required, ⟨more, by omega, others⟩, rfl⟩

namespace Tree

theorem isFree_spell (place : Nat) (word : List Char) : (spell place word).IsFree := by
  induction word generalizing place with
  | nil => trivial
  | cons c word ih =>
    cases word with
    | nil => trivial
    | cons d word => exact ⟨trivial, ih _⟩

theorem isFree_unroll {round : Nat → Regex} (free : ∀ place, (round place).IsFree)
    {width place rounds : Nat} {last : Regex} (hlast : last.IsFree) :
    (unroll round width place rounds last).IsFree := by
  induction rounds generalizing place with
  | zero => exact hlast
  | succ rounds ih =>
    rw [unroll_succ]
    exact ⟨free _, ih⟩

theorem isFree_choose {greedy : Bool} {body : Regex} (free : body.IsFree) :
    (choose none greedy body).IsFree := by
  cases greedy with
  | false => exact ⟨rfl, trivial, free⟩
  | true => exact ⟨rfl, free, trivial⟩

theorem isFree_atMost {round : Nat → Regex} (free : ∀ place, (round place).IsFree) {greedy : Bool}
    {width place rounds : Nat} : (atMost false greedy round width place rounds).IsFree := by
  induction rounds generalizing place with
  | zero => trivial
  | succ rounds ih =>
    rw [atMost_succ]
    exact isFree_choose ⟨free _, ih⟩

/-- Nodes are only needed for loops that may take nothing. -/
theorem isFree_compileFrom {tree : Tree} (take : tree.LoopsTake) (place : Nat) :
    (tree.compileFrom false place).IsFree := by
  induction tree generalizing place with
  | empty | look | oneOf => trivial
  | literal word => exact isFree_spell place word
  | group number body ih => exact ⟨trivial, ih take _, trivial⟩
  | seq left right ihLeft ihRight => exact ⟨ihLeft take.1 _, ihRight take.2 _⟩
  | alt left right ihLeft ihRight => exact ⟨rfl, ihLeft take.1 _, ihRight take.2 _⟩
  | repetition least most greedy body ih =>
    have free (place : Nat) := ih take.2 place
    cases most with
    | none =>
      simp only [compileFrom, take.1 rfl, Bool.not_true, Bool.or_self, Bool.false_eq_true, if_false,
        if_true]
      split
      · exact ⟨rfl, free _⟩
      · exact isFree_unroll free ⟨free _, rfl, free _⟩
    | some most => exact isFree_unroll free (isFree_atMost free)

end Tree

end Compile

end Acceptance.Regex
