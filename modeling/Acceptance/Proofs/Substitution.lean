import Acceptance.Proofs.Text
import Acceptance.Substitution
import Mathlib.Data.List.TakeWhile

/-!
# Tokens of a text

Cutting a text into tokens loses nothing of it: the pieces put together again are the text. So the
substitution changes a text only where a token has a name with a value. A text may be cut in two wherever
no token goes across, and both parts are then substituted on their own.
-/

namespace Acceptance

namespace Delimiters

variable {d : Delimiters} {lookup : String → Option String} {name after before text rest : List Char}

@[simp]
theorem isNameChar_closing (d : Delimiters) : d.isNameChar d.closing = false := by
  simp [isNameChar]

theorem token?_eq_some :
    d.token? text = some (name, after) ↔
      text = d.opening ++ (name ++ d.closing :: after) ∧ name ≠ [] ∧
        ∀ c ∈ name, d.isNameChar c = true := by
  constructor
  · intro h
    unfold token? at h
    split at h
    · cases h
    next inner hinner =>
      rw [Text.after?_eq_some] at hinner
      split at h
      · cases h
      next c rest hdrop =>
        split at h
        next hclosed =>
          cases h
          rw [Bool.and_eq_true, beq_iff_eq, Bool.not_eq_true', List.isEmpty_eq_false_iff] at hclosed
          obtain ⟨rfl, hname⟩ := hclosed
          refine ⟨?_, hname, fun c hc => List.mem_takeWhile_imp hc⟩
          rw [hinner, ← hdrop, List.takeWhile_append_dropWhile]
        · cases h
  · -- The closing delimiter is no character of a name, so the name is read up to it.
    rintro ⟨rfl, hname, hchars⟩
    have htake : (name ++ d.closing :: after).takeWhile d.isNameChar = name := by
      rw [List.takeWhile_append_of_pos hchars]
      simp
    have hdrop : (name ++ d.closing :: after).dropWhile d.isNameChar = d.closing :: after := by
      rw [List.dropWhile_append_of_pos hchars]
      simp
    rw [token?, Text.after?_eq_some.mpr rfl]
    simp [htake, hdrop, hname]

theorem token?_append (h : d.token? text = some (name, after)) (rest : List Char) :
    d.token? (text ++ rest) = some (name, after ++ rest) := by
  obtain ⟨rfl, hname, hchars⟩ := token?_eq_some.mp h
  exact token?_eq_some.mpr ⟨by simp, hname, hchars⟩

theorem pieces_of_token (h : d.token? text = some (name, after)) :
    d.pieces text = .token name :: d.pieces after := by
  cases text with
  | nil => simpa using length_of_token? h
  | cons c rest =>
      rw [pieces]
      split
      next heq =>
        cases heq.symm.trans h
        rfl
      next heq => cases heq.symm.trans h

theorem pieces_of_plain {c : Char} (h : d.token? (c :: rest) = none) :
    d.pieces (c :: rest) = .plain c :: d.pieces rest := by
  rw [pieces]
  split
  next heq => cases heq.symm.trans h
  next => rfl

/-! ## The whole of a text -/

theorem flatMap_source (d : Delimiters) (text : List Char) :
    (d.pieces text).flatMap (Piece.source d) = text := by
  fun_induction pieces d text with
  | case1 => rfl
  | case2 c rest name after htoken ih =>
      obtain ⟨htext, _⟩ := token?_eq_some.mp htoken
      rw [List.flatMap_cons, ih, htext]
      simp [Piece.source]
  | case3 c rest _ ih =>
      rw [List.flatMap_cons, ih]
      rfl

theorem exists_of_token_mem (h : .token name ∈ d.pieces text) :
    ∃ before after, text = before ++ (d.opening ++ (name ++ d.closing :: after)) := by
  fun_induction pieces d text with
  | case1 => cases h
  | case2 c rest other after htoken ih =>
      obtain ⟨htext, _⟩ := token?_eq_some.mp htoken
      rcases List.mem_cons.mp h with heq | hmem
      · cases heq
        exact ⟨[], after, htext⟩
      · obtain ⟨before, behind, rfl⟩ := ih hmem
        exact ⟨d.opening ++ (other ++ d.closing :: before), behind, by simp [htext]⟩
  | case3 c rest _ ih =>
      obtain ⟨before, behind, rfl⟩ := ih (by simpa using h)
      exact ⟨c :: before, behind, rfl⟩

/-- A text may be cut in two where every token that begins in the first part also ends in it. -/
theorem pieces_append
    (hcut : ∀ part, part <:+ before → part ≠ [] → d.token? part = none → d.token? (part ++ rest) = none) :
    d.pieces (before ++ rest) = d.pieces before ++ d.pieces rest := by
  fun_induction pieces d before with
  | case1 => rfl
  | case2 c inner name after htoken ih =>
      have hsuffix : after <:+ c :: inner := by
        obtain ⟨htext, _⟩ := token?_eq_some.mp htoken
        exact ⟨d.opening ++ (name ++ [d.closing]), by simp [htext]⟩
      rw [pieces_of_token (token?_append htoken rest), ih, List.cons_append]
      exact fun part hpart => hcut part (hpart.trans hsuffix)
  | case3 c inner hplain ih =>
      -- No token begins with this character, and the cut does not make one begin with it.
      have hplain' := hcut _ (List.suffix_refl _) (List.cons_ne_nil _ _) hplain
      rw [List.cons_append] at hplain' ⊢
      rw [pieces_of_plain hplain', ih, List.cons_append]
      exact fun part hpart => hcut part (hpart.trans (List.suffix_cons _ _))

/-! ## What is substituted -/

/-- The characters of a text with the values of known names in place of their tokens. -/
def substituteChars (d : Delimiters) (lookup : String → Option String) (text : List Char) : List Char :=
  (d.pieces text).flatMap (Piece.value d lookup)

theorem toList_substitute (d : Delimiters) (lookup : String → Option String) (text : String) :
    (d.substitute lookup text).toList = d.substituteChars lookup text.toList :=
  String.toList_ofList

theorem substituteChars_of_token (h : d.token? text = some (name, after)) :
    d.substituteChars lookup text =
      ((lookup (String.ofList name)).map String.toList).getD (d.opening ++ name ++ [d.closing]) ++
        d.substituteChars lookup after := by
  rw [substituteChars, pieces_of_token h, List.flatMap_cons, Piece.value]
  cases lookup (String.ofList name) <;> rfl

/-- A text stays as it is where no token has a value. -/
theorem substituteChars_of_unknown
    (h : ∀ name, .token name ∈ d.pieces text → lookup (String.ofList name) = none) :
    d.substituteChars lookup text = text := by
  have hpieces : ∀ piece ∈ d.pieces text, piece.value d lookup = piece.source d := by
    intro piece hpiece
    cases piece with
    | plain c => rfl
    | token name => rw [Piece.value, h name hpiece]
  rw [substituteChars, List.flatMap_def, List.map_congr_left hpieces, ← List.flatMap_def, flatMap_source]

theorem substituteChars_append
    (hcut : ∀ part, part <:+ before → part ≠ [] → d.token? part = none → d.token? (part ++ rest) = none) :
    d.substituteChars lookup (before ++ rest) =
      d.substituteChars lookup before ++ d.substituteChars lookup rest := by
  rw [substituteChars, pieces_append hcut, List.flatMap_append]
  rfl

end Delimiters

end Acceptance
