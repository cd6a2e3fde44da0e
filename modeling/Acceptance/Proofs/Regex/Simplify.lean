import Acceptance.Proofs.Regex.Compile
import Mathlib.Data.List.Forall2

/-!
# Sequences and choices

The sequence that a reader makes of the parts of an expression matches what these match one behind the
other: it makes no difference that parts which are sequences themselves are taken apart and that texts
which follow one another are joined.
-/

namespace Acceptance.Regex.Tree

/-- Two expressions match the same and pass the same marks. -/
def Agrees (left right : Tree) : Prop :=
  ∀ text i j marks, left.Matches text i j marks ↔ right.Matches text i j marks

namespace Agrees

variable {a b c left right : Tree}

theorem refl (tree : Tree) : Agrees tree tree := fun _ _ _ _ => Iff.rfl

theorem symm (agrees : Agrees a b) : Agrees b a := fun _ _ _ _ => (agrees _ _ _ _).symm

theorem trans (first : Agrees a b) (second : Agrees b c) : Agrees a c :=
  fun _ _ _ _ => (first _ _ _ _).trans (second _ _ _ _)

instance : Trans Agrees Agrees Agrees := ⟨trans⟩

theorem seq (hleft : Agrees a left) (hright : Agrees b right) :
    Agrees (.seq a b) (.seq left right) := by
  intro text i j marks
  simp only [Matches, hleft text, hright text]

theorem alt (hleft : Agrees a left) (hright : Agrees b right) :
    Agrees (.alt a b) (.alt left right) := by
  intro text i j marks
  simp only [Matches, hleft text, hright text]

theorem group (agrees : Agrees a b) (number : Nat) : Agrees (.group number a) (.group number b) := by
  intro text i j marks
  simp only [Matches, agrees text]

theorem repetition (agrees : Agrees a b) (least : Nat) (most : Option Nat) (greedy : Bool) :
    Agrees (.repetition least most greedy a) (.repetition least most greedy b) := by
  intro text i j marks
  simp only [Matches, agrees text]

end Agrees

variable {text : List Char} {i j : Nat} {marks : Marks}

/-- A chain is matched part by part. -/
theorem matches_chain_cons {tree : Tree} {trees : List Tree} :
    (chain (tree :: trees)).Matches text i j marks ↔
      ∃ k earlier later, tree.Matches text i k earlier ∧ (chain trees).Matches text k j later ∧
        marks = later ++ earlier := by
  cases trees with
  | cons => exact Iff.rfl
  | nil =>
    simp only [chain, Matches]
    constructor
    · exact fun matched => ⟨j, marks, [], matched, ⟨rfl, rfl⟩, rfl⟩
    · rintro ⟨_, _, _, matched, ⟨rfl, rfl⟩, rfl⟩
      exact matched

theorem loopsTake_chain {trees : List Tree} (take : ∀ tree ∈ trees, tree.LoopsTake) :
    (chain trees).LoopsTake := by
  induction trees with
  | nil => trivial
  | cons tree trees ih =>
    obtain ⟨first, others⟩ := List.forall_mem_cons.mp take
    cases trees with
    | nil => exact first
    | cons => exact ⟨first, ih others⟩

theorem agrees_chain_cons (tree : Tree) (trees : List Tree) :
    Agrees (chain (tree :: trees)) (.seq tree (chain trees)) :=
  fun _ _ _ _ => matches_chain_cons

theorem agrees_seq_assoc (a b c : Tree) : Agrees (.seq (.seq a b) c) (.seq a (.seq b c)) := by
  intro text i j marks
  simp only [Matches]
  constructor
  · rintro ⟨l, _, last, ⟨k, first, middle, ha, hb, rfl⟩, hc, rfl⟩
    exact ⟨k, first, _, ha, ⟨l, middle, last, hb, hc, rfl⟩, by simp⟩
  · rintro ⟨k, first, _, ha, ⟨l, middle, last, hb, hc, rfl⟩, rfl⟩
    exact ⟨l, _, last, ⟨k, first, middle, ha, hb, rfl⟩, hc, by simp⟩

theorem agrees_empty_seq (tree : Tree) : Agrees (.seq .empty tree) tree := by
  intro text i j marks
  simp only [Matches]
  constructor
  · rintro ⟨_, _, later, ⟨rfl, rfl⟩, matched, rfl⟩
    rwa [List.append_nil]
  · exact fun matched => ⟨i, [], marks, ⟨rfl, rfl⟩, matched, by simp⟩

theorem agrees_chain_append (front back : List Tree) :
    Agrees (chain (front ++ back)) (.seq (chain front) (chain back)) := by
  induction front with
  | nil => exact (agrees_empty_seq _).symm
  | cons tree front ih =>
    calc Agrees (chain (tree :: (front ++ back))) (.seq tree (chain (front ++ back))) :=
          agrees_chain_cons _ _
      Agrees _ (.seq tree (.seq (chain front) (chain back))) := .seq (.refl _) ih
      Agrees _ (.seq (.seq tree (chain front)) (chain back)) := (agrees_seq_assoc _ _ _).symm
      Agrees _ (.seq (chain (tree :: front)) (chain back)) :=
          .seq (agrees_chain_cons _ _).symm (.refl _)

/-- The parts of an expression one behind the other. -/
theorem agrees_chain_parts (tree : Tree) : Agrees (chain tree.parts) tree := by
  induction tree with
  | seq left right ihLeft ihRight =>
    exact (agrees_chain_append _ _).trans (.seq ihLeft ihRight)
  | _ => exact .refl _

theorem agrees_chain_flatMap_parts (trees : List Tree) :
    Agrees (chain (trees.flatMap parts)) (chain trees) := by
  induction trees with
  | nil => exact .refl _
  | cons tree trees ih =>
    calc Agrees (chain (tree.parts ++ trees.flatMap parts))
          (.seq (chain tree.parts) (chain (trees.flatMap parts))) := agrees_chain_append _ _
      Agrees _ (.seq tree (chain trees)) := .seq (agrees_chain_parts tree) ih
      Agrees _ (chain (tree :: trees)) := (agrees_chain_cons _ _).symm

theorem agrees_literal_append (word more : List Char) :
    Agrees (.literal (word ++ more)) (.seq (.literal word) (.literal more)) := by
  intro text i j marks
  simp only [Matches, Spells.append_iff]
  constructor
  · rintro ⟨rfl, k, first, second⟩
    exact ⟨k, [], [], ⟨rfl, first⟩, ⟨rfl, second⟩, rfl⟩
  · rintro ⟨k, _, _, ⟨rfl, first⟩, ⟨rfl, second⟩, rfl⟩
    exact ⟨rfl, k, first, second⟩

/-- Texts that follow one another are matched as one. -/
theorem agrees_chain_joinLiterals (trees : List Tree) :
    Agrees (chain (joinLiterals trees)) (chain trees) := by
  induction trees with
  | nil => exact .refl _
  | cons tree trees ih =>
    have next : Agrees (.seq tree (chain (joinLiterals trees))) (chain (tree :: trees)) :=
      (Agrees.seq (.refl _) ih).trans (agrees_chain_cons _ _).symm
    cases tree with
    | literal word =>
      rw [joinLiterals]
      split
      next more rest eq =>
        rw [eq] at next
        calc Agrees (chain (.literal (word ++ more) :: rest))
              (.seq (.literal (word ++ more)) (chain rest)) := agrees_chain_cons _ _
          Agrees _ (.seq (.seq (.literal word) (.literal more)) (chain rest)) :=
              .seq (agrees_literal_append _ _) (.refl _)
          Agrees _ (.seq (.literal word) (.seq (.literal more) (chain rest))) :=
              agrees_seq_assoc _ _ _
          Agrees _ (.seq (.literal word) (chain (.literal more :: rest))) :=
              .seq (.refl _) (agrees_chain_cons _ _).symm
          Agrees _ (chain (.literal word :: trees)) := next
      next => exact (agrees_chain_cons _ _).trans next
    | _ => exact (agrees_chain_cons _ _).trans next

/-- The sequence of some expressions matches what they match one behind the other. -/
theorem agrees_sequence (trees : List Tree) : Agrees (sequence trees) (chain trees) :=
  (agrees_chain_joinLiterals _).trans (agrees_chain_flatMap_parts _)

theorem agrees_chain {lefts rights : List Tree} (agree : List.Forall₂ Agrees lefts rights) :
    Agrees (chain lefts) (chain rights) := by
  induction agree with
  | nil => exact .refl _
  | cons first _ ih =>
    exact (agrees_chain_cons _ _).trans ((Agrees.seq first ih).trans (agrees_chain_cons _ _).symm)

/-- A set that holds a character may be read as a text of its only one. -/
theorem agrees_ofSet {set other : CharSet} {c : Char} (inside : set.contains c = true)
    (same : ∀ d, set.contains d = true ↔ other.contains d = true) :
    Agrees (ofSet set) (.oneOf other) := by
  intro text i j marks
  simp only [ofSet]
  split
  next d single =>
    have only (e : Char) : set.contains e = true ↔ e = d :=
      CharSet.contains_of_single? single inside
    simp only [Matches, ← same, only, exists_eq_left]
  next => simp only [Matches, same]

/-- Rounds of what takes a character are kept as they are, but for one round and none. -/
theorem repeated_eq {least : Nat} {most : Option Nat} {body : Tree} (greedy : Bool)
    (takes : body.takesNone = false) (several : most ≠ some 0 ∧ (least = 1 → most ≠ some 1)) :
    repeated least most greedy body = .repetition least most greedy body := by
  have never : ¬ (least = 0 ∧ most = some 0) := fun both => several.1 both.2
  have once : ¬ (least = 1 ∧ most = some 1) := fun both => several.2 both.1 both.2
  simp only [repeated, takes, Bool.false_eq_true, if_false, if_neg never, if_neg once]

theorem takesNone_ofSet (set : CharSet) : (ofSet set).takesNone = false := by
  unfold ofSet
  split <;> rfl

/-- A choice of one expression that is no choice itself. -/
theorem choice_singleton {tree : Tree} (single : ∀ left right, tree ≠ .alt left right) :
    choice [tree] = tree := by
  cases tree with
  | alt left right => exact absurd rfl (single left right)
  | _ => rfl

theorem sequence_look_ne_alt (condition : Look) (trees : List Tree) (left right : Tree) :
    sequence (.look condition :: trees) ≠ .alt left right := by
  have whole : sequence (.look condition :: trees) =
      chain (.look condition :: joinLiterals (trees.flatMap parts)) := rfl
  rw [whole]
  cases joinLiterals (trees.flatMap parts) <;> simp [chain]

end Acceptance.Regex.Tree
