import Acceptance.Proofs.Argument
import Mathlib.Data.List.DropRight

/-!
# Parts of a text

What remains of a text without the blanks around it, where a text is split, and numbers that are read back
from their digits.
-/

namespace Acceptance.Text

variable {text before after part : List Char} {c separator : Char}

/-! ## Blanks -/

theorem trimRight_append_blanks (hafter : ∀ c ∈ after, isBlank c = true) (text : List Char) :
    trimRight (text ++ after) = trimRight text := by
  have hreverse : ∀ c ∈ after.reverse, isBlank c = true := by simpa using hafter
  simp [trimRight, List.dropWhile_append_of_pos hreverse]

theorem trimLeft_blanks_append (hbefore : ∀ c ∈ before, isBlank c = true) (text : List Char) :
    trimLeft (before ++ text) = trimLeft text :=
  List.dropWhile_append_of_pos hbefore

/-- Blanks around a text do not matter. -/
theorem trim_surrounded (hbefore : ∀ c ∈ before, isBlank c = true) (hafter : ∀ c ∈ after, isBlank c = true)
    (text : List Char) : trim (before ++ text ++ after) = trim text := by
  rw [trim, List.append_assoc, trimLeft_blanks_append hbefore, trimLeft, List.dropWhile_append]
  by_cases hnone : (text.dropWhile isBlank).isEmpty = true
  · -- Nothing but blanks remains on both sides.
    have hblank : after.dropWhile isBlank = [] := List.dropWhile_eq_nil_iff.mpr hafter
    rw [if_pos hnone, hblank, trim, trimLeft, List.isEmpty_iff.mp hnone]
  · rw [if_neg hnone, trimRight_append_blanks hafter]
    rfl

theorem trim_eq_self (hfirst : ∀ c ∈ text.head?, isBlank c = false)
    (hlast : ∀ c ∈ text.getLast?, isBlank c = false) : trim text = text := by
  have hleft : trimLeft text = text := by
    cases text with
    | nil => rfl
    | cons c text => simp [trimLeft, hfirst c rfl]
  have hright : text.rdropWhile isBlank = text := by
    rw [List.rdropWhile_eq_self_iff]
    intro hne
    simp [hlast _ (List.getLast_mem_getLast? hne)]
  rw [trim, hleft]
  exact hright

theorem trim_cons_eq_self (hc : isBlank c = false) (hlast : ∀ c ∈ text.getLast?, isBlank c = false) :
    trim (c :: text) = c :: text := by
  refine trim_eq_self (by simpa using hc) fun last hmem => ?_
  rw [List.getLast?_cons, Option.mem_some_iff] at hmem
  cases hend : text.getLast? with
  | none => rwa [← hmem, hend]
  | some other =>
      rw [← hmem, hend]
      exact hlast other hend

/-- A text without the blanks around it is a part of the text. -/
theorem trim_isInfix (text : List Char) : trim text <:+: text :=
  (List.rdropWhile_prefix isBlank (trimLeft text)).isInfix.trans (List.dropWhile_suffix isBlank).isInfix

theorem isBlank_of_mem_getLast?_trim (hc : c ∈ (trim text).getLast?) : isBlank c = false := by
  have hne : trim text ≠ [] := by
    intro hnone
    simp [hnone] at hc
  rw [List.getLast?_eq_some_getLast hne, Option.mem_some_iff] at hc
  rw [← hc]
  exact Bool.eq_false_iff.mpr (List.rdropWhile_last_not isBlank (trimLeft text) hne)

theorem isBlank_of_isDigit (hc : c.isDigit = true) : isBlank c = false := by
  have hrange : 48 ≤ c.toNat ∧ c.toNat ≤ 57 := by
    simpa [Char.isDigit, UInt32.le_iff_toNat_le] using hc
  simp [isBlank]
  omega

/-! ## Splitting -/

theorem after?_eq_some {start text rest : List Char} :
    after? start text = some rest ↔ text = start ++ rest := by
  induction start generalizing text with
  | nil => simp [after?]
  | cons a start ih =>
      cases text with
      | nil => simp [after?]
      | cons c text =>
          rw [after?]
          by_cases hc : a = c
          · simp [hc, ih]
          · simp [hc, Ne.symm hc]

theorem splitAt?_append (hpart : separator ∉ part) (rest : List Char) :
    splitAt? separator (part ++ separator :: rest) = some (part, rest) := by
  induction part with
  | nil => simp [splitAt?]
  | cons c part ih =>
      rw [List.mem_cons, not_or] at hpart
      obtain ⟨hc, hpart⟩ := hpart
      simp [splitAt?, Ne.symm hc, ih hpart]

/-- A text is split at the first occurrence of a character. -/
theorem splitAt?_eq_some {rest : List Char} :
    splitAt? separator text = some (part, rest) ↔ separator ∉ part ∧ text = part ++ separator :: rest := by
  constructor
  · intro h
    induction text generalizing part with
    | nil => cases h
    | cons c text ih =>
        rw [splitAt?] at h
        split at h
        next heq =>
          cases h
          exact ⟨List.not_mem_nil, by rw [eq_of_beq heq]; rfl⟩
        next hne =>
          obtain ⟨⟨before, after⟩, hsplit, hparts⟩ := Option.map_eq_some_iff.mp h
          cases hparts
          obtain ⟨hbefore, rfl⟩ := ih hsplit
          have hc : separator ≠ c := fun heq => hne (beq_iff_eq.mpr heq.symm)
          exact ⟨List.not_mem_cons_of_ne_of_not_mem hc hbefore, rfl⟩
  · rintro ⟨hpart, rfl⟩
    exact splitAt?_append hpart rest

/-! ## Numbers -/

/-- A text is at least one digit, with or without a plus sign before it, and stands for a number. -/
def IsUnsigned (text : List Char) (value : Nat) : Prop :=
  ∃ plus digits, (plus = [] ∨ plus = ['+']) ∧ text = plus ++ digits ∧ digits ≠ [] ∧
    (∀ c ∈ digits, c.isDigit = true) ∧ valueOfDigits digits = value

theorem isDigit_of_mem_toDigits {n : Nat} (hc : c ∈ Nat.toDigits 10 n) : c.isDigit = true :=
  Nat.isDigit_of_mem_toDigits (by decide) (by decide) hc

theorem digitsFrom_toDigits (n : Nat) : digitsFrom 0 (Nat.toDigits 10 n) = n := by
  have hread := Nat.ofDigitChars_ten_toDigits (n := n)
  rw [Nat.ofDigitChars_eq_foldl] at hread
  simpa [digitsFrom, digitValue, Nat.mul_comm] using hread

theorem natural?_toDigits (n : Nat) : natural? (Nat.toDigits 10 n) = some n := by
  rw [natural?_eq_some, ← digitsFrom_zero]
  exact ⟨Nat.toDigits_ne_nil, fun c hc => isDigit_of_mem_toDigits hc, digitsFrom_toDigits n⟩

theorem unsigned?_of_isDigit {digits : List Char} (hdigits : ∀ c ∈ digits, c.isDigit = true) :
    unsigned? digits = natural? digits := by
  fun_cases unsigned? digits with
  | case1 rest =>
      have hplus := hdigits '+' List.mem_cons_self
      simp at hplus
  | case2 => rfl

theorem unsigned?_eq_some {value : Nat} : unsigned? text = some value ↔ IsUnsigned text value := by
  constructor
  · intro h
    fun_cases unsigned? text with
    | case1 digits => exact ⟨['+'], digits, .inr rfl, rfl, natural?_eq_some.mp h⟩
    | case2 text hplus =>
        rw [unsigned?] at h
        · exact ⟨[], text, .inl rfl, rfl, natural?_eq_some.mp h⟩
        · exact hplus
  · rintro ⟨plus, digits, rfl | rfl, rfl, hvalue⟩
    · rw [unsigned?_of_isDigit hvalue.2.1]
      exact natural?_eq_some.mpr hvalue
    · exact natural?_eq_some.mpr hvalue

theorem unsigned?_toDigits (n : Nat) : unsigned? (Nat.toDigits 10 n) = some n := by
  rw [unsigned?_of_isDigit fun c hc => isDigit_of_mem_toDigits hc, natural?_toDigits]

theorem le_digitsFrom (start : Nat) (digits : List Char) : start ≤ digitsFrom start digits := by
  rw [digitsFrom_eq]
  exact (Nat.le_mul_of_pos_right start (by positivity)).trans (Nat.le_add_right _ _)

end Acceptance.Text
