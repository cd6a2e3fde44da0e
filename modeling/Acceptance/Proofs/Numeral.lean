import Acceptance.Numeral
import Acceptance.Proofs.Pattern.Source

/-!
# What numerals are found in

A text is written as a number if it is an optional sign and digits of any script, with a point among them
or without. This is what the regular expressions of numerals match, and those that their sources are read
as. No text is written in both ways.
-/

namespace Acceptance

open Computability Regex Regex.Reading

/-- A text that may stand before the digits of a number, and whether it makes the number negative. -/
inductive IsSign : List Char → Bool → Prop
  | absent : IsSign [] false
  | plus : IsSign ['+'] false
  | minus : IsSign ['-'] true

theorem exists_isSign_iff {sign : List Char} :
    (∃ negative, IsSign sign negative) ↔ sign = [] ∨ sign = ['+'] ∨ sign = ['-'] := by
  constructor
  · rintro ⟨_, _ | _ | _⟩ <;> simp
  · rintro (rfl | rfl | rfl)
    · exact ⟨_, .absent⟩
    · exact ⟨_, .plus⟩
    · exact ⟨_, .minus⟩

/-! ## Digits -/

theorem decimalNumber_of_isDigit {c : Char} (h : c.isDigit = true) :
    Unicode.decimalNumber.contains c = true := by
  simp only [Char.isDigit, Bool.and_eq_true, decide_eq_true_eq] at h
  exact CharSet.contains_ofRanges.mpr ⟨(0x30, 0x39), List.mem_cons_self, h.1, h.2⟩

/-- The digits of other scripts stand behind those from `0` to `9`. -/
theorem isDigit_or_le_of_decimalNumber {c : Char} (h : Unicode.decimalNumber.contains c = true) :
    c.isDigit = true ∨ 0x660 ≤ c.toNat := by
  obtain ⟨run, hrun, hfirst, hlast⟩ := CharSet.contains_ofRanges.mp h
  obtain rfl | hother : run = (0x30, 0x39) ∨ 0x660 ≤ run.1 := by
    clear hfirst hlast
    revert run
    decide
  · left
    rw [Char.isDigit, Bool.and_eq_true, decide_eq_true_iff, decide_eq_true_iff]
    exact ⟨hfirst, hlast⟩
  · exact .inr (hother.trans hfirst)

/-- Signs, points and letters are no digits of any script. -/
theorem not_mem_of_decimalNumber {digits : List Char} {c : Char}
    (hdecimal : ∀ c ∈ digits, Unicode.decimalNumber.contains c = true) (hdigit : c.isDigit = false)
    (hsmall : c.toNat < 0x660) : c ∉ digits := by
  intro hmem
  rcases isDigit_or_le_of_decimalNumber (hdecimal c hmem) with htrue | hle
  · simp [htrue] at hdigit
  · omega

namespace Numeral

/-- A text is written as a number in some way. The digits may be those of any script. -/
inductive Writes : Numeral → List Char → Prop
  | integer {sign negative digits} (signed : IsSign sign negative) (nonempty : digits ≠ [])
    (decimal : ∀ c ∈ digits, Unicode.decimalNumber.contains c = true) :
    Writes .integer (sign ++ digits)
  | decimal {sign negative whole fraction} (signed : IsSign sign negative)
    (decimal : ∀ c ∈ whole, Unicode.decimalNumber.contains c = true) (nonempty : fraction ≠ [])
    (decimal' : ∀ c ∈ fraction, Unicode.decimalNumber.contains c = true) :
    Writes .decimal (sign ++ (whole ++ '.' :: fraction))

theorem not_mem_of_writes {text : List Char} (h : integer.Writes text) : '.' ∉ text := by
  cases h with
  | @integer sign negative digits signed nonempty decimal =>
    rw [List.mem_append, not_or]
    exact ⟨by cases signed <;> simp, not_mem_of_decimalNumber decimal rfl (by decide)⟩

/-- There is no text of which the expressions of both ways are found. -/
theorem not_writes_integer {text : List Char} (h : decimal.Writes text) : ¬ integer.Writes text := by
  intro hinteger
  refine not_mem_of_writes hinteger ?_
  cases h
  simp

/-! ## What is matched -/

theorem mem_sign {word : List Char} :
    word ∈ letters (.ofList ['+', '-']) + 1 ↔ ∃ negative, IsSign word negative := by
  rw [Placeholder.mem_sign, exists_isSign_iff]

/-- The words of a numeral. -/
theorem exists_denotes (numeral : Numeral) : ∃ language, (Tree.chain numeral.parts).Denotes language ∧
    ∀ word, word ∈ language ↔ numeral.Writes word := by
  have sign := (Tree.Denotes.oneOf (.ofList ['+', '-'])).optional
  have digit := Tree.Denotes.oneOf Unicode.decimalNumber
  cases numeral with
  | integer =>
    refine ⟨_, sign.seq digit.oneOrMore, fun word => ⟨fun mem => ?_, fun writes => ?_⟩⟩
    · obtain ⟨_, signs, digits, behind, rfl⟩ := Language.mem_mul.mp mem
      obtain ⟨negative, signed⟩ := mem_sign.mp signs
      obtain ⟨nonempty, decimal⟩ := mem_letters_mul_kstar.mp behind
      exact .integer signed nonempty decimal
    · cases writes with
      | integer signed nonempty decimal =>
        exact Language.append_mem_mul (mem_sign.mpr ⟨_, signed⟩)
          (mem_letters_mul_kstar.mpr ⟨nonempty, decimal⟩)
  | decimal =>
    refine ⟨_, sign.seq (digit.zeroOrMore.seq ((Tree.Denotes.literal ['.']).seq digit.oneOrMore)),
      fun word => ⟨fun mem => ?_, fun writes => ?_⟩⟩
    · obtain ⟨_, signs, _, unsigned, rfl⟩ := Language.mem_mul.mp mem
      obtain ⟨whole, decimal, _, pointed, rfl⟩ := Language.mem_mul.mp unsigned
      obtain ⟨_, rfl, fraction, behind, rfl⟩ := Language.mem_mul.mp pointed
      obtain ⟨negative, signed⟩ := mem_sign.mp signs
      obtain ⟨nonempty, decimal'⟩ := mem_letters_mul_kstar.mp behind
      exact .decimal signed (mem_letters_kstar.mp decimal) nonempty decimal'
    · cases writes with
      | decimal signed decimal nonempty decimal' =>
        exact Language.append_mem_mul (mem_sign.mpr ⟨_, signed⟩) <|
          Language.append_mem_mul (mem_letters_kstar.mpr decimal) <|
            Language.append_mem_mul (mem_exactly.mpr rfl)
              (mem_letters_mul_kstar.mpr ⟨nonempty, decimal'⟩)

theorem loopsTake_parts (numeral : Numeral) : ∀ tree ∈ numeral.parts, tree.LoopsTake := by
  have digit := Tree.takesSome_oneOf Placeholder.contains_decimalNumber_zero
  cases numeral <;>
    simp [parts, Tree.LoopsTake, Tree.oneOrMore, Tree.zeroOrMore, Tree.optional, digit]

/-- The regular expression of a numeral is found in what is written so. -/
theorem isMatch_iff {numeral : Numeral} {text : List Char} :
    numeral.isMatch text = true ↔ numeral.Writes text := by
  obtain ⟨language, denotes, words⟩ := numeral.exists_denotes
  rw [isMatch, tree, isSome_search_iff_mem numeral.loopsTake_parts denotes, words]

/-! ## What is written for them -/

/-- The source of a numeral is read as an expression without groups that matches the same. -/
theorem exists_parse?_source (numeral : Numeral) :
    ∃ written, Regex.parse? numeral.source = some written ∧ written.groups = 0 ∧
      written.tree.Agrees numeral.tree := by
  have sign := Placeholder.agrees_sign
  have digits := Placeholder.agrees_digits
  cases numeral with
  | integer =>
    have reads (rounds : Nat) (draft : Draft) :
        readFrom (rounds + 4) (plain draft [] 0) ("[+-]?\\d+".toList ++ ['$']) =
          readFrom rounds (plain ([signPart, digitsPart 1].foldl Draft.add draft) [] 0) ['$'] := by
      have written : "[+-]?\\d+".toList ++ ['$'] =
        '[' :: '+' :: '-' :: ']' :: '?' :: '\\' :: 'd' :: '+' :: '$' :: [] := rfl
      rw [written, readFrom_sign (by decide), readFrom_someDigits (by decide)]
      rfl
    have source : integer.source = String.ofList ('^' :: ("[+-]?\\d+".toList ++ ['$'])) := by decide
    rw [source]
    refine exists_parse?_anchored ?_ ?_ ?_ reads
    · decide
    · simp [signPart, digitsPart]
    · exact .cons sign (.cons (digits 1) .nil)
  | decimal =>
    have reads (rounds : Nat) (draft : Draft) :
        readFrom (rounds + 7) (plain draft [] 0) ("[+-]?\\d*\\.\\d+".toList ++ ['$']) =
          readFrom rounds (plain ([signPart, digitsPart 0, { tree := .literal ['.'] },
            digitsPart 1].foldl Draft.add draft) [] 0) ['$'] := by
      have written : "[+-]?\\d*\\.\\d+".toList ++ ['$'] = '[' :: '+' :: '-' :: ']' :: '?' ::
        '\\' :: 'd' :: '*' :: '\\' :: '.' :: '\\' :: 'd' :: '+' :: '$' :: [] := rfl
      rw [written, readFrom_sign (by decide), readFrom_anyDigits (by decide),
        readFrom_escaped (by decide), readFrom_someDigits (by decide)]
      rfl
    have source : decimal.source =
        String.ofList ('^' :: ("[+-]?\\d*\\.\\d+".toList ++ ['$'])) := by decide
    rw [source]
    refine exists_parse?_anchored ?_ ?_ ?_ reads
    · decide
    · simp [signPart, digitsPart]
    · exact .cons sign (.cons (digits 0) (.cons (.refl _) (.cons (digits 1) .nil)))

end Numeral

end Acceptance
