import Acceptance.CharSet
import Mathlib.Data.List.Sort

/-!
# The members of character sets

Sorting the runs of a set, joining them where they meet and leaving out the surrogates changes none of
its members.
-/

namespace Acceptance

theorem Unicode.inRanges_iff {ranges : List (Nat × Nat)} {point : Nat} :
    inRanges ranges point = true ↔ ∃ run ∈ ranges, run.1 ≤ point ∧ point ≤ run.2 := by
  simp [inRanges]

namespace CharSet

open Unicode

/-- Code points of characters lie on both sides of the surrogates. -/
theorem toNat_char (c : Char) : c.toNat < 0xD800 ∨ 0xE000 ≤ c.toNat ∧ c.toNat ≤ 0x10FFFF := by
  have valid : c.toNat < 0xD800 ∨ 0xDFFF < c.toNat ∧ c.toNat < 0x110000 := c.valid
  omega

theorem inRanges_joinFrom {first last point : Nat} {rest : List (Nat × Nat)}
    (sorted : rest.Pairwise fun left right => left.1 ≤ right.1)
    (behind : ∀ run ∈ rest, first ≤ run.1) :
    inRanges (joinFrom first last rest) point = true ↔
      (first ≤ point ∧ point ≤ last) ∨ inRanges rest point = true := by
  induction rest generalizing first last with
  | nil => simp [joinFrom, inRanges]
  | cons run rest ih =>
    obtain ⟨start, stop⟩ := run
    obtain ⟨later, sorted⟩ := List.pairwise_cons.mp sorted
    have lower : first ≤ start := behind _ List.mem_cons_self
    have split : inRanges ((start, stop) :: rest) point = true ↔
        (start ≤ point ∧ point ≤ stop) ∨ inRanges rest point = true := by
      simp [inRanges]
    rw [joinFrom, split]
    split
    next touches =>
      rw [ih sorted fun run mem => behind _ (List.mem_cons_of_mem _ mem), ← or_assoc]
      refine or_congr_left ?_
      omega
    next apart =>
      have cons : inRanges ((first, last) :: joinFrom start stop rest) point = true ↔
          (first ≤ point ∧ point ≤ last) ∨ inRanges (joinFrom start stop rest) point = true := by
        simp [inRanges]
      rw [cons, ih sorted later]

theorem inRanges_join {ranges : List (Nat × Nat)} {point : Nat}
    (sorted : ranges.Pairwise fun left right => left.1 ≤ right.1) :
    inRanges (join ranges) point = inRanges ranges point := by
  cases ranges with
  | nil => rfl
  | cons run rest =>
    obtain ⟨later, sorted⟩ := List.pairwise_cons.mp sorted
    rw [Bool.eq_iff_iff]
    refine (inRanges_joinFrom sorted later).trans ?_
    simp [inRanges]

theorem inRanges_withoutSurrogates {run : Nat × Nat} {c : Char} :
    inRanges (withoutSurrogates run) c.toNat = true ↔ run.1 ≤ c.toNat ∧ c.toNat ≤ run.2 := by
  have := toNat_char c
  simp only [inRanges_iff, withoutSurrogates, List.mem_filter, List.mem_cons, List.not_mem_nil,
    or_false, decide_eq_true_eq]
  constructor
  · rintro ⟨part, ⟨rfl | rfl, -⟩, within⟩ <;> simp only at within <;> omega
  · intro within
    rcases this with before | behind
    · exact ⟨_, ⟨.inl rfl, by simp only; omega⟩, by simp only; omega⟩
    · exact ⟨_, ⟨.inr rfl, by simp only; omega⟩, by simp only; omega⟩

/-- No character lies among the surrogates. -/
theorem inRanges_flatMap_withoutSurrogates {runs : List (Nat × Nat)} {c : Char} :
    inRanges (runs.flatMap withoutSurrogates) c.toNat = true ↔ inRanges runs c.toNat = true := by
  simp only [inRanges_iff, List.mem_flatMap]
  constructor
  · rintro ⟨part, ⟨run, mem, inside⟩, within⟩
    exact ⟨run, mem, inRanges_withoutSurrogates.mp (inRanges_iff.mpr ⟨part, inside, within⟩)⟩
  · rintro ⟨run, mem, within⟩
    obtain ⟨part, inside, within⟩ := inRanges_iff.mp (inRanges_withoutSurrogates.mpr within)
    exact ⟨part, ⟨run, mem, inside⟩, within⟩

/-- A set of runs holds the characters of every run. -/
theorem contains_ofRanges {ranges : List (Nat × Nat)} {c : Char} :
    (ofRanges ranges).contains c = true ↔ ∃ run ∈ ranges, run.1 ≤ c.toNat ∧ c.toNat ≤ run.2 := by
  have sorted : ((ranges.flatMap withoutSurrogates).mergeSort
      fun left right => left.1 ≤ right.1).Pairwise fun left right => left.1 ≤ right.1 := by
    have ordered : ((ranges.flatMap withoutSurrogates).mergeSort
        fun left right => left.1 ≤ right.1).Pairwise
          fun left right => decide (left.1 ≤ right.1) = true :=
      List.pairwise_mergeSort (by simp; omega) (by simp; omega) _
    simpa using ordered
  have same (point : Nat) : inRanges ((ranges.flatMap withoutSurrogates).mergeSort
      fun left right => left.1 ≤ right.1) point =
        inRanges (ranges.flatMap withoutSurrogates) point :=
    (List.mergeSort_perm _ _).any_eq
  rw [contains, ofRanges, inRanges_join sorted, same, inRanges_flatMap_withoutSurrogates,
    inRanges_iff]

theorem contains_unions {sets : List CharSet} {c : Char} :
    (unions sets).contains c = true ↔ ∃ set ∈ sets, set.contains c = true := by
  rw [unions, contains_ofRanges]
  constructor
  · rintro ⟨run, found, within⟩
    obtain ⟨set, mem, inside⟩ := List.mem_flatMap.mp found
    exact ⟨set, mem, inRanges_iff.mpr ⟨run, inside, within⟩⟩
  · rintro ⟨set, mem, holds⟩
    obtain ⟨run, inside, within⟩ := inRanges_iff.mp holds
    exact ⟨run, List.mem_flatMap.mpr ⟨set, mem, inside⟩, within⟩

/-- A set of one character is in the one form of its kind. -/
theorem unions_single (c : Char) : unions [.single c] = .single c := by
  have valid := toNat_char c
  have run : withoutSurrogates (c.toNat, c.toNat) = [(c.toNat, c.toNat)] := by
    rcases valid with below | above
    · have high : ¬ max c.toNat 0xE000 ≤ c.toNat := by omega
      have low : min c.toNat 0xD7FF = c.toNat := by omega
      simp [withoutSurrogates, low, high]
    · have low : ¬ c.toNat ≤ min c.toNat 0xD7FF := by omega
      have high : max c.toNat 0xE000 = c.toNat := by omega
      simp [withoutSurrogates, low, high]
  simp [unions, single, ofRanges, join, joinFrom, run]

@[simp] theorem contains_ofList {characters : List Char} {c : Char} :
    (ofList characters).contains c = true ↔ c ∈ characters := by
  simp only [ofList, contains_ofRanges, List.mem_map]
  constructor
  · rintro ⟨_, ⟨d, mem, rfl⟩, lower, upper⟩
    rwa [Char.toNat_inj.mp (Nat.le_antisymm upper lower)]
  · intro mem
    exact ⟨_, ⟨c, mem, rfl⟩, Nat.le_refl _, Nat.le_refl _⟩

@[simp] theorem contains_single {c d : Char} : (single d).contains c = true ↔ c = d := by
  rw [contains, single, inRanges_iff]
  constructor
  · rintro ⟨run, mem, lower, upper⟩
    obtain rfl := List.mem_singleton.mp mem
    exact Char.toNat_inj.mp (Nat.le_antisymm upper lower)
  · rintro rfl
    exact ⟨_, List.mem_singleton_self _, Nat.le_refl _, Nat.le_refl _⟩

/-- The gaps around a run hold the code points outside of it. -/
theorem inRanges_gapsFrom_singleton {start stop point : Nat} (inside : point ≤ 0x10FFFF)
    (run : start ≤ stop) (below : stop ≤ 0x10FFFF) :
    inRanges (gapsFrom 0 [(start, stop)]) point = true ↔ point < start ∨ stop < point := by
  by_cases before : 0 < start <;> by_cases behind : stop + 1 ≤ 0x10FFFF <;>
    simp [inRanges, gapsFrom, before, behind] <;> omega

/-- All characters but one are outside of its set. -/
@[simp] theorem contains_compl_single {c d : Char} :
    (single d).compl.contains c = true ↔ c ≠ d := by
  have valid := toNat_char c
  have valid' := toNat_char d
  have around : inRanges (gapsFrom 0 [(d.toNat, d.toNat)]) c.toNat = true ↔
      c.toNat < d.toNat ∨ d.toNat < c.toNat :=
    inRanges_gapsFrom_singleton (by omega) (Nat.le_refl _) (by omega)
  rw [contains, compl, single, inRanges_flatMap_withoutSurrogates, around, Ne, ← Char.toNat_inj]
  omega

/-- A set of only one character holds this and no other, if it holds any. -/
theorem contains_of_single? {set : CharSet} {c d e : Char} (single : set.single? = some d)
    (inside : set.contains c = true) : set.contains e = true ↔ e = d := by
  unfold single? at single
  split at single
  next first last ranges =>
    split at single
    next same =>
      subst same
      have point (c : Char) : set.contains c = true ↔ c.toNat = first := by
        rw [contains, ranges, inRanges_iff]
        simp only [List.mem_singleton, exists_eq_left]
        omega
      obtain rfl := (point c).mp inside
      obtain rfl : c = d := by simpa using single
      rw [point, Char.toNat_inj]
    next => cases single
  next => cases single

/-- A set that holds a character is not empty. -/
theorem isEmpty_eq_false {set : CharSet} {c : Char} (inside : set.contains c = true) :
    set.isEmpty = false := by
  obtain ⟨run, mem, -⟩ := inRanges_iff.mp inside
  exact List.isEmpty_eq_false_iff.mpr (List.ne_nil_of_mem mem)

end CharSet

end Acceptance
