import Acceptance.Proofs.Text
import Acceptance.Tag
import Mathlib.Data.Finset.Max

/-!
# Normal forms of tags

The normal form of a tag is a part of it. It is its own normal form only if it begins with neither a blank nor
an `@`. Two lists share a tag if a normal form is in both of them.
-/

namespace Acceptance.Tag

/-! ## Characters -/

section Characters

variable {tag name : List Char}

theorem normalizeChars_of_trim (htrim : Text.trim tag = '@' :: name) : normalizeChars tag = name := by
  simp only [normalizeChars, htrim]

/-- A name without an `@` in front is the normal form of the texts that trim to it, or to it behind one `@`. -/
theorem normalizeChars_eq_iff (hname : name.head? ≠ some '@') :
    normalizeChars tag = name ↔ ∃ mark, (mark = [] ∨ mark = ['@']) ∧ Text.trim tag = mark ++ name := by
  unfold normalizeChars
  split
  next rest htrim =>
    constructor
    · rintro rfl
      exact ⟨['@'], .inr rfl, htrim⟩
    · rintro ⟨mark, rfl | rfl, heq⟩
      · rw [← List.nil_append name, ← heq, htrim] at hname
        exact absurd rfl hname
      · exact (List.cons.inj (htrim.symm.trans heq)).2
  next hmark =>
    constructor
    · exact fun heq => ⟨[], .inl rfl, heq⟩
    · rintro ⟨mark, rfl | rfl, heq⟩
      · exact heq
      · exact absurd heq (hmark name)

theorem normalizeChars_isInfix (tag : List Char) : normalizeChars tag <:+: tag := by
  unfold normalizeChars
  split
  next rest htrim => exact (List.suffix_cons '@' rest).isInfix.trans (htrim ▸ Text.trim_isInfix tag)
  next => exact Text.trim_isInfix tag

/-- A normal form has no blank at its end. -/
theorem isBlank_of_mem_getLast?_normalizeChars {c : Char} (hc : c ∈ (normalizeChars tag).getLast?) :
    Text.isBlank c = false := by
  unfold normalizeChars at hc
  split at hc
  next rest htrim =>
    have hlast : c ∈ (Text.trim tag).getLast? := by
      rw [htrim, List.getLast?_cons, hc]
      rfl
    exact Text.isBlank_of_mem_getLast?_trim hlast
  next => exact Text.isBlank_of_mem_getLast?_trim hc

/-- Neither the blanks around a tag nor one `@` before it matter. -/
theorem normalizeChars_surrounded {before after mark : List Char}
    (hbefore : ∀ c ∈ before, Text.isBlank c = true) (hafter : ∀ c ∈ after, Text.isBlank c = true)
    (hmark : mark = [] ∨ mark = ['@']) (hfirst : ∀ c ∈ name.head?, Text.isBlank c = false ∧ c ≠ '@')
    (hlast : ∀ c ∈ name.getLast?, Text.isBlank c = false) :
    normalizeChars (before ++ (mark ++ name) ++ after) = name := by
  refine (normalizeChars_eq_iff fun hat => (hfirst '@' hat).2 rfl).mpr ⟨mark, hmark, ?_⟩
  rw [Text.trim_surrounded hbefore hafter]
  rcases hmark with rfl | rfl
  · exact Text.trim_eq_self (fun c hc => (hfirst c hc).1) hlast
  · exact Text.trim_cons_eq_self (by decide) hlast

/-- A blank in front of a tag does not matter. -/
theorem normalizeChars_blank_cons {c : Char} (hc : Text.isBlank c = true) (tag : List Char) :
    normalizeChars (c :: tag) = normalizeChars tag := by
  simp only [normalizeChars, Text.trim, Text.trimLeft, List.dropWhile_cons_of_pos hc]

end Characters

/-! ## Bare names -/

/-- A name begins with neither a blank nor an `@`. -/
def IsBare (name : String) : Prop := ∀ c ∈ name.toList.head?, Text.isBlank c = false ∧ c ≠ '@'

variable {tag : String}

/-- A normal form is its own normal form exactly if it is bare. -/
theorem normalize_normalize_iff : normalize (normalize tag) = normalize tag ↔ IsBare (normalize tag) := by
  simp only [IsBare, normalize, String.toList_ofList, String.ofList_inj]
  constructor
  · intro heq c hc
    obtain ⟨rest, hname⟩ := List.head?_eq_some_iff.mp hc
    rw [hname] at heq
    constructor
    · by_contra hblank
      rw [normalizeChars_blank_cons (by simpa using hblank)] at heq
      exact absurd (heq ▸ (normalizeChars_isInfix rest).length_le) (by simp)
    · rintro rfl
      -- The `@` is taken off, but no other one stands behind it.
      have hat : Text.isBlank '@' = false := by decide
      have htrim : Text.trim ('@' :: rest) = '@' :: rest := by
        rw [← hname]
        exact Text.trim_eq_self (by simpa [hname] using hat) fun _ => isBlank_of_mem_getLast?_normalizeChars
      exact List.cons_ne_self _ _ (heq.symm.trans (normalizeChars_of_trim htrim))
  · intro hbare
    have htrim : Text.trim (normalizeChars tag.toList) = normalizeChars tag.toList :=
      Text.trim_eq_self (fun c hc => (hbare c hc).1) fun c => isBlank_of_mem_getLast?_normalizeChars
    exact (normalizeChars_eq_iff fun hmark => (hbare '@' hmark).2 rfl).mpr ⟨[], .inl rfl, htrim⟩

/-- What is not its own normal form is longer than it. -/
theorem length_normalize_lt (h : normalize tag ≠ tag) : (normalize tag).length < tag.length := by
  have hinfix := normalizeChars_isInfix tag.toList
  have hlength : (normalize tag).length = (normalizeChars tag.toList).length := by simp [normalize]
  rw [hlength, ← String.length_toList]
  refine hinfix.length_le.lt_of_ne fun heq => h ?_
  rw [normalize, hinfix.eq_of_length heq, String.ofList_toList]

/-- If the normal form of every tag of a list is that of the normal form of another one, then all of them are
bare. -/
theorem isBare_of_forall_exists {tags : List String}
    (h : ∀ tag ∈ tags, ∃ other ∈ tags, normalize (normalize other) = normalize tag) :
    ∀ tag ∈ tags, IsBare (normalize tag) := by
  classical
  by_contra hbare
  push Not at hbare
  obtain ⟨tag, htag, htwice⟩ := hbare
  -- Of the tags that are not bare take one with the longest normal form: that of the other is longer.
  obtain ⟨longest, hlongest, hmax⟩ := Finset.exists_max_image
    (tags.toFinset.filter fun tag => ¬ IsBare (normalize tag)) (fun tag => (normalize tag).length)
    ⟨tag, by simp [htag, htwice]⟩
  obtain ⟨hmem, htwice⟩ : longest ∈ tags ∧ ¬ IsBare (normalize longest) := by simpa using hlongest
  obtain ⟨other, hother, heq⟩ := h longest hmem
  have hunbare : ¬ IsBare (normalize other) := by
    intro hbare
    rw [normalize_normalize_iff.mpr hbare] at heq
    exact htwice (heq ▸ hbare)
  have hlonger := length_normalize_lt fun heq => hunbare (normalize_normalize_iff.mp heq)
  have hle := hmax other (by simp [hother, hunbare])
  rw [heq] at hlonger
  exact absurd hle (Nat.not_le.mpr hlonger)

/-! ## Tags in common -/

/-- Two lists share a tag if a normal form is in both of them. -/
theorem intersects_iff {filter active : List String} :
    intersects filter active = true ↔ ∃ name ∈ filter.map normalize, name ∈ active.map normalize := by
  simp [intersects]

end Acceptance.Tag
