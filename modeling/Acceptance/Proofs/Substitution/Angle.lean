import Acceptance.Proofs.Substitution

/-!
# Names in angle brackets

Where a name in angle brackets is read as a token. No name has a blank or a closing bracket, but it may have
an opening one. So a text may be cut in two unless its first part ends within what may become a name; and a
name is hidden by a bracket that has been opened before it in the same word.
-/

namespace Acceptance.Delimiters

/-- A text ends within what may become a name in angle brackets. -/
def EndsOpen (text : List Char) : Prop :=
  ∃ start word, text = start ++ '<' :: word ∧ ∀ c ∈ word, angle.isNameChar c = true

variable {lookup : String → Option String} {before after start word header rest text : List Char} {c : Char}

theorem notMem_of_name (hc : angle.isNameChar c = false) (hword : ∀ c ∈ word, angle.isNameChar c = true) :
    c ∉ '<' :: word := by
  intro hmem
  rcases List.mem_cons.mp hmem with rfl | hmem
  · exact absurd hc (by decide)
  · exact absurd (hword c hmem) (by simp [hc])

theorem endsOpen_append_cons (hc : angle.isNameChar c = false) :
    EndsOpen (before ++ c :: after) ↔ EndsOpen after := by
  constructor
  · rintro ⟨start, word, heq, hword⟩
    -- What is open is free of `c`, so all of it stands behind `c`.
    have hnotMem := notMem_of_name hc hword
    rcases List.append_eq_append_iff.mp heq with ⟨inside, _, hinside⟩ | ⟨behind, _, hbehind⟩
    · cases inside with
      | nil =>
          cases hinside
          exact absurd List.mem_cons_self hnotMem
      | cons first inside =>
          cases hinside
          exact ⟨inside, word, rfl, hword⟩
    · exact absurd (hbehind ▸ List.mem_append_right _ List.mem_cons_self) hnotMem
  · rintro ⟨start, word, rfl, hword⟩
    exact ⟨before ++ c :: start, word, by simp, hword⟩

theorem not_endsOpen_concat (hc : angle.isNameChar c = false) : ¬ EndsOpen (before ++ [c]) := by
  rw [endsOpen_append_cons hc]
  rintro ⟨start, word, heq, _⟩
  cases start <;> cases heq

theorem EndsOpen.exists_first (h : EndsOpen text) :
    ∃ start word, text = start ++ '<' :: word ∧ (∀ c ∈ word, angle.isNameChar c = true) ∧
      ¬ EndsOpen start := by
  obtain ⟨start, word, heq, hword⟩ := h
  induction hlength : start.length using Nat.strong_induction_on generalizing start word with
  | h length ih =>
      by_cases hopen : EndsOpen start
      · -- An earlier bracket in the same word has less before it.
        obtain ⟨earlier, between, rfl, hbetween⟩ := hopen
        refine ih earlier.length ?_ earlier (between ++ '<' :: word) (by simp [heq]) ?_ rfl
        · rw [← hlength, List.length_append, List.length_cons]
          omega
        · rw [List.forall_mem_append, List.forall_mem_cons]
          exact ⟨hbetween, by decide, hword⟩
      · exact ⟨start, word, heq, hword, hopen⟩

/-- No token goes across the end of a text that does not end within a name. -/
theorem token?_append_eq_none (hopen : ¬ EndsOpen before) (rest : List Char) (part : List Char)
    (hpart : part <:+ before) (hne : part ≠ []) (hplain : angle.token? part = none) :
    angle.token? (part ++ rest) = none := by
  cases htoken : angle.token? (part ++ rest) with
  | none => rfl
  | some found =>
      obtain ⟨name, after⟩ := found
      obtain ⟨htext, hname, hchars⟩ := token?_eq_some.mp htoken
      have hsplit : part ++ rest = ('<' :: name) ++ ('>' :: after) := htext
      obtain ⟨start, rfl⟩ := hpart
      rcases List.append_eq_append_iff.mp hsplit with ⟨inside, hinside, _⟩ | ⟨behind, hbehind, hrest⟩
      · -- The name goes on behind the part.
        cases part with
        | nil => exact absurd rfl hne
        | cons first word =>
            cases hinside
            exact absurd ⟨start, word, rfl, fun c hc => hchars c (List.mem_append_left _ hc)⟩ hopen
      · cases behind with
        | nil => exact absurd ⟨start, name, by rw [hbehind, List.append_nil], hchars⟩ hopen
        | cons first behind =>
            cases hrest
            have hwhole : angle.token? part = some (name, behind) :=
              token?_eq_some.mpr ⟨by rw [hbehind]; rfl, hname, hchars⟩
            cases hplain.symm.trans hwhole

theorem isNameChar_of_mem (hclosing : '>' ∉ word) (hblank : ¬ ∃ c ∈ word, Text.isBlank c = true) :
    ∀ c ∈ word, angle.isNameChar c = true := by
  intro c hc
  have hne : c ≠ '>' := fun heq => hclosing (heq ▸ hc)
  have hnotBlank : Text.isBlank c = false := Bool.eq_false_iff.mpr fun heq => hblank ⟨c, hc, heq⟩
  simp [isNameChar, angle, hne, hnotBlank]

theorem substituteChars_of_notMem (h : '<' ∉ text ∨ '>' ∉ text) :
    angle.substituteChars lookup text = text := by
  apply substituteChars_of_unknown
  intro name hname
  obtain ⟨before, after, rfl⟩ := exists_of_token_mem hname
  simp [angle] at h

theorem substituteChars_append_of_closed (hopen : ¬ EndsOpen before) (rest : List Char) :
    angle.substituteChars lookup (before ++ rest) =
      angle.substituteChars lookup before ++ angle.substituteChars lookup rest :=
  substituteChars_append (token?_append_eq_none hopen rest)

theorem substituteChars_append_of_notMem (h : '>' ∉ rest) :
    angle.substituteChars lookup (before ++ rest) = angle.substituteChars lookup before ++ rest := by
  by_cases hopen : EndsOpen before
  · -- The open word is never closed, so it is kept with all that follows it.
    obtain ⟨start, word, rfl, hword, hstart⟩ := hopen.exists_first
    have hclosing : '>' ∉ '<' :: word := notMem_of_name (by decide) hword
    have hclosing' : '>' ∉ '<' :: word ++ rest := by
      rw [List.mem_append]
      exact not_or.mpr ⟨hclosing, h⟩
    rw [List.append_assoc, substituteChars_append_of_closed hstart, substituteChars_append_of_closed hstart,
      substituteChars_of_notMem (.inr hclosing), substituteChars_of_notMem (.inr hclosing'),
      List.append_assoc]
  · rw [substituteChars_append_of_closed hopen, substituteChars_of_notMem (.inr h)]

theorem substituteChars_closing (text after : List Char) :
    angle.substituteChars lookup (text ++ '>' :: after) =
      angle.substituteChars lookup (text ++ ['>']) ++ angle.substituteChars lookup after := by
  rw [← substituteChars_append_of_closed (not_endsOpen_concat (by decide)), List.append_assoc]
  rfl

/-- A name in angle brackets that nothing before it hides is replaced by its value. -/
theorem substituteChars_replaced (hopen : ¬ EndsOpen before)
    (hheader : ∀ c ∈ header, angle.isNameChar c = true) (hne : header ≠ []) {value : String}
    (hvalue : lookup (String.ofList header) = some value) (after : List Char) :
    angle.substituteChars lookup (before ++ ('<' :: header ++ '>' :: after)) =
      angle.substituteChars lookup before ++ (value.toList ++ angle.substituteChars lookup after) := by
  have htoken : angle.token? ('<' :: header ++ '>' :: after) = some (header, after) :=
    token?_eq_some.mpr ⟨rfl, hne, hheader⟩
  rw [substituteChars_append_of_closed hopen, substituteChars_of_token htoken, hvalue]
  rfl

/-- With another `<` before it in the same word, a name in angle brackets is read as a part of a longer
name. -/
theorem substituteChars_hidden (hopen : EndsOpen before)
    (hheader : ∀ c ∈ header, angle.isNameChar c = true)
    (hunknown : ∀ name, '<' ∈ name → lookup (String.ofList name) = none) :
    angle.substituteChars lookup (before ++ ('<' :: header ++ '>' :: after)) =
      angle.substituteChars lookup before ++
        ('<' :: header ++ '>' :: angle.substituteChars lookup after) := by
  obtain ⟨start, word, rfl, hword, hstart⟩ := hopen.exists_first
  have hname : ∀ c ∈ word ++ '<' :: header, angle.isNameChar c = true := by
    rw [List.forall_mem_append, List.forall_mem_cons]
    exact ⟨hword, by decide, hheader⟩
  have htoken : angle.token? ('<' :: word ++ ('<' :: header ++ '>' :: after)) =
      some (word ++ '<' :: header, after) :=
    token?_eq_some.mpr ⟨by simp [angle], by simp, hname⟩
  rw [List.append_assoc, substituteChars_append_of_closed hstart, substituteChars_of_token htoken,
    hunknown _ (List.mem_append_right _ List.mem_cons_self), substituteChars_append_of_closed hstart,
    substituteChars_of_notMem (.inr (notMem_of_name (by decide) hword))]
  simp [angle]

/-- A name with a blank is not read as a name. -/
theorem substituteChars_blank (hblank : ∃ c ∈ header, Text.isBlank c = true) (hopening : '<' ∉ header)
    (hclosing : '>' ∉ header) :
    angle.substituteChars lookup (before ++ ('<' :: header ++ '>' :: after)) =
      angle.substituteChars lookup before ++
        ('<' :: header ++ '>' :: angle.substituteChars lookup after) := by
  obtain ⟨blank, hmem, hblank⟩ := hblank
  obtain ⟨left, right, rfl⟩ := List.append_of_mem hmem
  have hc : angle.isNameChar blank = false := by simp [isNameChar, hblank]
  -- The text is cut behind the blank and behind the closing bracket.
  have hcut : before ++ ('<' :: (left ++ blank :: right) ++ '>' :: after) =
      (before ++ '<' :: left ++ [blank]) ++ (right ++ '>' :: after) := by
    simp
  have hleft : '>' ∉ '<' :: left ++ [blank] := by
    simp only [List.mem_append, List.mem_cons, not_or] at hclosing ⊢
    simp [hclosing]
  have hright : '<' ∉ right ++ ['>'] := by
    simp only [List.mem_append, List.mem_cons, not_or] at hopening ⊢
    simp [hopening]
  rw [hcut, substituteChars_append_of_closed (not_endsOpen_concat hc), List.append_assoc before,
    substituteChars_append_of_notMem hleft, substituteChars_closing,
    substituteChars_of_notMem (.inl hright)]
  simp

end Acceptance.Delimiters
