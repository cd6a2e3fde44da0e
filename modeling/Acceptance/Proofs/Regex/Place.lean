import Acceptance.Regex.Tree
import Mathlib.Tactic.Set

/-!
# Places

The single-character parts of an expression with what remains to be matched behind each. What remains
behind a place has no other places than the whole expression. When an expression is compiled its parts
get places of their own, except that the rounds of a loop share theirs; so the place of a thread
decides what remains.
-/

namespace Acceptance.Regex

/-- The places of an expression, each with what remains to be matched behind it. -/
def places : Regex → List (Nat × Regex)
  | empty | look _ | mark _ => []
  | one place _ => [(place, .empty)]
  | seq left right =>
    left.places.map (fun part => (part.1, followedBy part.2 right)) ++ right.places
  | alt _ left right => left.places ++ right.places
  | again node greedy body =>
    body.places.map fun part => (part.1, followedBy part.2 (.again node greedy body))

/-- Every place has one rest only. -/
def Determined (regex : Regex) : Prop :=
  ∀ place rest rest', (place, rest) ∈ regex.places → (place, rest') ∈ regex.places → rest = rest'

theorem mem_places_seq {left right : Regex} {part : Nat × Regex} :
    part ∈ (Regex.seq left right).places ↔
      (∃ rest, (part.1, rest) ∈ left.places ∧ part.2 = followedBy rest right) ∨
        part ∈ right.places := by
  simp only [places, List.mem_append, List.mem_map]
  constructor
  · rintro (⟨⟨place, rest⟩, mem, rfl⟩ | mem)
    · exact .inl ⟨rest, mem, rfl⟩
    · exact .inr mem
  · rintro (⟨rest, mem, behind⟩ | mem)
    · exact .inl ⟨_, mem, Prod.ext rfl behind.symm⟩
    · exact .inr mem

theorem mem_places_again {node : Option Nat} {greedy : Bool} {body : Regex} {part : Nat × Regex} :
    part ∈ (Regex.again node greedy body).places ↔
      ∃ rest, (part.1, rest) ∈ body.places ∧
        part.2 = followedBy rest (.again node greedy body) := by
  simp only [places, List.mem_map]
  constructor
  · rintro ⟨⟨place, rest⟩, mem, rfl⟩
    exact ⟨rest, mem, rfl⟩
  · rintro ⟨rest, mem, behind⟩
    exact ⟨_, mem, Prod.ext rfl behind.symm⟩

theorem places_followedBy (left right : Regex) :
    (followedBy left right).places = (Regex.seq left right).places := by
  cases left <;> simp [followedBy, places]

/-- What remains behind a place has places of the whole expression. -/
theorem places_rest_subset {regex rest : Regex} {place : Nat} (mem : (place, rest) ∈ regex.places) :
    rest.places ⊆ regex.places := by
  induction regex generalizing rest with
  | empty | look | mark => cases mem
  | one here set =>
    obtain ⟨rfl, rfl⟩ := Prod.mk.inj (List.mem_singleton.mp mem)
    exact List.nil_subset _
  | seq left right ihLeft ihRight =>
    intro part inside
    rcases mem_places_seq.mp mem with ⟨before, found, rfl⟩ | found
    · rw [places_followedBy] at inside
      rcases mem_places_seq.mp inside with ⟨behind, found', eq⟩ | found'
      · exact mem_places_seq.mpr (.inl ⟨behind, ihLeft found found', eq⟩)
      · exact mem_places_seq.mpr (.inr found')
    · exact mem_places_seq.mpr (.inr (ihRight found inside))
  | alt node left right ihLeft ihRight =>
    rcases List.mem_append.mp mem with found | found
    · exact List.subset_append_of_subset_left _ (ihLeft found)
    · exact List.subset_append_of_subset_right _ (ihRight found)
  | again node greedy body ih =>
    intro part inside
    obtain ⟨before, found, rfl⟩ := mem_places_again.mp mem
    rw [places_followedBy] at inside
    rcases mem_places_seq.mp inside with ⟨behind, found', eq⟩ | found'
    · exact mem_places_again.mpr ⟨behind, ih found found', eq⟩
    · exact found'

/-- An expression has places from one number up to another, and the place decides what remains. -/
structure Numbered (first last : Nat) (regex : Regex) : Prop where
  within : ∀ part ∈ regex.places, first ≤ part.1 ∧ part.1 < last
  determined : regex.Determined

namespace Numbered

variable {first middle last : Nat} {left right regex : Regex}

theorem of_places_eq_nil (none : regex.places = []) : Numbered first last regex where
  within part mem := by simp [none] at mem
  determined place rest rest' mem := by simp [none] at mem

theorem mono {first' last' : Nat} (numbered : Numbered first last regex) (lower : first' ≤ first)
    (upper : last ≤ last') : Numbered first' last' regex where
  within part mem := by
    have := numbered.within part mem
    omega
  determined := numbered.determined

theorem one (place : Nat) (set : CharSet) : Numbered place (place + 1) (.one place set) where
  within part mem := by
    rw [List.mem_singleton.mp mem]
    exact ⟨Nat.le_refl _, place.lt_succ_self⟩
  determined here rest rest' mem mem' := by
    rw [(Prod.mk.inj (List.mem_singleton.mp mem)).2, (Prod.mk.inj (List.mem_singleton.mp mem')).2]

/-- Two parts with places of their own. -/
theorem seq (hleft : Numbered first middle left) (hright : Numbered middle last right)
    (lower : first ≤ middle) (upper : middle ≤ last) : Numbered first last (.seq left right) where
  within part mem := by
    rcases mem_places_seq.mp mem with ⟨rest, found, -⟩ | found
    · have : first ≤ part.1 ∧ part.1 < middle := hleft.within (part.1, rest) found
      omega
    · have := hright.within _ found
      omega
  determined place rest rest' mem mem' := by
    -- A place in both parts would lie on both sides of `middle`.
    rcases mem_places_seq.mp mem with ⟨before, found, rfl⟩ | found <;>
      rcases mem_places_seq.mp mem' with ⟨before', found', rfl⟩ | found'
    · rw [hleft.determined _ _ _ found found']
    · have := (hleft.within _ found).2
      have := (hright.within _ found').1
      omega
    · have := (hleft.within _ found').2
      have := (hright.within _ found).1
      omega
    · exact hright.determined _ _ _ found found'

theorem alt {node : Option Nat} (hleft : Numbered first middle left)
    (hright : Numbered middle last right) (lower : first ≤ middle) (upper : middle ≤ last) :
    Numbered first last (.alt node left right) where
  within part mem := by
    rcases List.mem_append.mp mem with found | found
    · have := hleft.within _ found
      omega
    · have := hright.within _ found
      omega
  determined place rest rest' mem mem' := by
    rcases List.mem_append.mp mem with found | found <;>
      rcases List.mem_append.mp mem' with found' | found'
    · exact hleft.determined _ _ _ found found'
    · have := (hleft.within _ found).2
      have := (hright.within _ found').1
      omega
    · have := (hleft.within _ found').2
      have := (hright.within _ found).1
      omega
    · exact hright.determined _ _ _ found found'

theorem again (node : Option Nat) (greedy : Bool) (body : Numbered first last regex) :
    Numbered first last (.again node greedy regex) where
  within part mem := by
    obtain ⟨rest, found, -⟩ := mem_places_again.mp mem
    exact body.within (part.1, rest) found
  determined place rest rest' mem mem' := by
    obtain ⟨before, found, rfl⟩ := mem_places_again.mp mem
    obtain ⟨before', found', rfl⟩ := mem_places_again.mp mem'
    rw [body.determined _ _ _ found found']

/-- A round before a loop shares the places of the loop, and what remains is the same behind both. -/
theorem round (node : Option Nat) (greedy : Bool) (body : Numbered first last regex) :
    Numbered first last (.seq regex (.again node greedy regex)) := by
  have same : (Regex.seq regex (.again node greedy regex)).places ⊆
      (Regex.again node greedy regex).places := by
    intro part mem
    rcases mem_places_seq.mp mem with ⟨rest, found, eq⟩ | found
    · exact mem_places_again.mpr ⟨rest, found, eq⟩
    · exact found
  have loop := body.again node greedy
  exact ⟨fun part mem => loop.within part (same mem),
    fun place rest rest' mem mem' => loop.determined _ _ _ (same mem) (same mem')⟩

theorem choose {node : Option Nat} {greedy : Bool} (body : Numbered first last regex)
    (ordered : first ≤ last) : Numbered first last (Tree.choose node greedy regex) := by
  unfold Tree.choose
  cases greedy with
  | false => exact .alt (of_places_eq_nil rfl) body (Nat.le_refl _) ordered
  | true => exact .alt body (of_places_eq_nil rfl) ordered (Nat.le_refl _)

end Numbered

namespace Tree

theorem spell_cons_cons (place : Nat) (c d : Char) (text : List Char) :
    spell place (c :: d :: text) =
      .seq (.one place (.single c)) (spell (place + 1) (d :: text)) := rfl

theorem numbered_spell (place : Nat) (text : List Char) :
    Numbered place (place + text.length) (spell place text) := by
  match text with
  | [] => exact .of_places_eq_nil rfl
  | [c] => exact .one place _
  | c :: d :: text =>
    rw [spell_cons_cons]
    have rest := numbered_spell (place + 1) (d :: text)
    have last : place + 1 + (d :: text).length = place + (c :: d :: text).length := by
      simp only [List.length_cons]
      omega
    exact .seq (.one place _) (rest.mono (Nat.le_refl _) (Nat.le_of_eq last)) (by omega) (by omega)

section Rounds

variable {round : Nat → Regex} {width : Nat}

theorem unroll_succ (round : Nat → Regex) (width place rounds : Nat) (last : Regex) :
    unroll round width place (rounds + 1) last =
      .seq (round place) (unroll round width (place + width) rounds last) := by
  have shift (index : Nat) : place + (index + 1) * width = place + width + index * width := by
    rw [Nat.succ_mul]
    omega
  simp [unroll, List.range_succ_eq_map, List.foldr_map, shift]

theorem atMost_succ (cyclic greedy : Bool) (round : Nat → Regex) (width place rounds : Nat) :
    atMost cyclic greedy round width place (rounds + 1) =
      choose (if cyclic then some (place + width) else none) greedy
        (.seq (round place)
          (atMost cyclic greedy round width (place + (width + 1)) rounds)) := by
  have shift (index : Nat) :
      place + (index + 1) * (width + 1) = place + (width + 1) + index * (width + 1) := by
    rw [Nat.succ_mul]
    omega
  simp [atMost, List.range_succ_eq_map, List.foldr_map, shift]

theorem numbered_unroll (hround : ∀ place, Numbered place (place + width) (round place))
    {place rounds final : Nat} {last : Regex}
    (hlast : Numbered (place + rounds * width) final last) (ordered : place + rounds * width ≤ final) :
    Numbered place final (unroll round width place rounds last) := by
  induction rounds generalizing place with
  | zero => simpa [unroll] using hlast
  | succ rounds ih =>
    have shift : place + (rounds + 1) * width = place + width + rounds * width := by
      rw [Nat.succ_mul]
      omega
    rw [shift] at hlast ordered
    rw [unroll_succ]
    exact .seq (hround place) (ih hlast ordered) (by omega) (by omega)

theorem numbered_atMost (cyclic greedy : Bool)
    (hround : ∀ place, Numbered place (place + width) (round place)) (place rounds : Nat) :
    Numbered place (place + rounds * (width + 1)) (atMost cyclic greedy round width place rounds) := by
  induction rounds generalizing place with
  | zero => exact .of_places_eq_nil rfl
  | succ rounds ih =>
    have shift : place + (rounds + 1) * (width + 1) = place + (width + 1) + rounds * (width + 1) := by
      rw [Nat.succ_mul]
      omega
    rw [atMost_succ, shift]
    refine .choose (.seq ((hround place).mono (Nat.le_refl _) (by omega)) (ih _) ?_ ?_) ?_ <;> omega

end Rounds

/-- The places of a compiled expression are numbered from the given number on, and each decides what
remains. -/
theorem numbered_compileFrom (tree : Tree) (cyclic : Bool) (place : Nat) :
    Numbered place (place + tree.width) (tree.compileFrom cyclic place) := by
  induction tree generalizing cyclic place with
  | empty | look => exact .of_places_eq_nil rfl
  | literal text => exact numbered_spell place text
  | oneOf set => exact .one place set
  | group number body ih =>
    exact .seq (.of_places_eq_nil rfl)
      (.seq (ih cyclic place) (.of_places_eq_nil rfl) (by simp) (Nat.le_refl _)) (Nat.le_refl _) (by simp)
  | seq left right ihLeft ihRight =>
    have whole : (Tree.seq left right).width = left.width + right.width := rfl
    refine .seq (ihLeft cyclic place) ((ihRight cyclic _).mono (Nat.le_refl _) ?_) ?_ ?_ <;> omega
  | alt left right ihLeft ihRight =>
    have whole : (Tree.alt left right).width = left.width + right.width + 1 := rfl
    refine .alt (ihLeft cyclic place) ((ihRight cyclic _).mono (Nat.le_refl _) ?_) ?_ ?_ <;> omega
  | repetition least most greedy body ih =>
    cases most with
    | none =>
      simp only [compileFrom, width]
      set inner := cyclic || !body.takesSome
      split
      next never =>
        subst never
        simp only [Nat.zero_sub, Nat.zero_mul, Nat.add_zero, Nat.zero_max, Nat.one_mul]
        split
        · exact ((ih inner place).again _ _).mono (Nat.le_refl _) (by omega)
        · exact (((ih inner place).round _ _).choose (by omega)).mono (Nat.le_refl _) (by omega)
      next atLeast =>
        obtain ⟨more, rfl⟩ := Nat.exists_eq_succ_of_ne_zero atLeast
        simp only [Nat.succ_eq_add_one, Nat.add_sub_cancel, Nat.le_add_left, Nat.max_eq_left,
          Nat.succ_mul]
        refine numbered_unroll (ih inner) (((ih inner _).round _ _).mono (Nat.le_refl _) ?_) ?_ <;> omega
    | some most =>
      simp only [compileFrom, width]
      have enough : least * body.width + (most - least) * (body.width + 1) ≤
          max least most * (body.width + 1) := by
        rcases Nat.le_total least most with le | le
        · obtain ⟨more, rfl⟩ := Nat.exists_eq_add_of_le le
          simp only [Nat.add_sub_cancel_left, Nat.le_add_right, Nat.max_eq_right, Nat.mul_add,
            Nat.add_mul]
          omega
        · simp only [Nat.sub_eq_zero_of_le le, Nat.max_eq_left le, Nat.mul_add]
          omega
      refine numbered_unroll (ih cyclic) ((numbered_atMost _ _ (ih cyclic) _ _).mono (Nat.le_refl _) ?_) ?_ <;>
        omega

/-- In a compiled expression the place decides what remains. -/
theorem determined_compile (tree : Tree) : tree.compile.Determined :=
  (numbered_compileFrom tree false 0).determined

end Tree

end Acceptance.Regex
