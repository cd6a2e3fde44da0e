import Acceptance.Argument
import Acceptance.Proofs.Numeral
import Mathlib.Data.List.Basic
import Mathlib.Data.List.TakeWhile
import Mathlib.Data.Nat.Digits.Defs

/-!
# Coercion of captured values

Which texts are read as integers and decimal numbers, and what becomes of a captured text that is neither:
it stays as it is, but for the quotes around it. A text that a resolver has put in its place is classified
in its stead.

The way in which a text is written decides which reader is asked. Both readers take the digits from `0` to
`9` alone, and none takes a text of the other way, so that together they take what is written so with
these digits.
-/

namespace Acceptance

/-- The value of some digits, the last of which counts the ones. -/
def valueOfDigits (digits : List Char) : Nat := Nat.ofDigits 10 (digits.reverse.map Text.digitValue)

/-- A text is an optional sign and at least one digit, and stands for an integer. -/
def IsInteger (text : List Char) (value : Int) : Prop :=
  ∃ sign negative digits, IsSign sign negative ∧ text = sign ++ digits ∧ digits ≠ [] ∧
    (∀ c ∈ digits, c.isDigit = true) ∧
      value = if negative then -(valueOfDigits digits : Int) else valueOfDigits digits

/-- A text is an optional sign, any digits, a point and at least one digit. -/
def IsDecimal (text : List Char) : Prop :=
  ∃ sign negative whole fraction, IsSign sign negative ∧ text = sign ++ whole ++ '.' :: fraction ∧
    (∀ c ∈ whole, c.isDigit = true) ∧ fraction ≠ [] ∧ ∀ c ∈ fraction, c.isDigit = true

/-- A text is a decimal number, and the given one is nearest to it. -/
def HasDecimalValue (text : List Char) (number : Binary64) : Prop :=
  ∃ sign negative whole fraction, IsSign sign negative ∧ text = sign ++ whole ++ '.' :: fraction ∧
    (∀ c ∈ whole, c.isDigit = true) ∧ fraction ≠ [] ∧ (∀ c ∈ fraction, c.isDigit = true) ∧
      number = .ofDecimal negative (valueOfDigits (whole ++ fraction)) (-fraction.length)

/-- A text begins with a quote and ends with the same one. -/
def IsQuoted (text : List Char) : Prop :=
  ∃ quote inner, (quote = '"' ∨ quote = '\'') ∧ text = quote :: (inner ++ [quote])

/-- What a text is without one pair of equal quotes around it, if there is one. -/
inductive Unquotes : List Char → List Char → Prop
  | quoted {quote : Char} {inner : List Char} (h : quote = '"' ∨ quote = '\'') :
    Unquotes (quote :: (inner ++ [quote])) inner
  | plain {text : List Char} (h : ¬ IsQuoted text) : Unquotes text text

namespace Text

theorem digitsFrom_eq (start : Nat) (digits : List Char) :
    digitsFrom start digits = start * 10 ^ digits.length + valueOfDigits digits := by
  induction digits generalizing start with
  | nil => simp [digitsFrom, valueOfDigits]
  | cons c digits ih =>
    have hrest := ih (start * 10 + digitValue c)
    simp only [digitsFrom, List.foldl_cons] at hrest ⊢
    rw [hrest]
    simp only [valueOfDigits, List.reverse_cons, List.map_append, List.map_cons, List.map_nil,
      Nat.ofDigits_append, Nat.ofDigits_singleton, List.length_map, List.length_reverse,
      List.length_cons]
    ring

theorem digitsFrom_zero (digits : List Char) : digitsFrom 0 digits = valueOfDigits digits := by
  rw [digitsFrom_eq, Nat.zero_mul, Nat.zero_add]

theorem natural?_eq_some {text : List Char} {value : Nat} :
    natural? text = some value ↔
      text ≠ [] ∧ (∀ c ∈ text, c.isDigit = true) ∧ valueOfDigits text = value := by
  simp only [natural?, digitsFrom_zero, Option.ite_none_right_eq_some, Option.some.injEq, Bool.and_eq_true,
    Bool.not_eq_true', List.isEmpty_eq_false_iff, List.all_eq_true, and_assoc, ne_eq]

end Text

namespace Argument

/-! ## Signs -/

/-- Splits off the sign at the start of a text. -/
def splitSign : List Char → Bool × List Char
  | '-' :: rest => (true, rest)
  | '+' :: rest => (false, rest)
  | rest => (false, rest)

theorem exists_isSign (text : List Char) :
    ∃ sign, IsSign sign (splitSign text).1 ∧ text = sign ++ (splitSign text).2 := by
  fun_cases splitSign text with
  | case1 rest => exact ⟨_, .minus, rfl⟩
  | case2 rest => exact ⟨_, .plus, rfl⟩
  | case3 => exact ⟨_, .absent, rfl⟩

/-- A sign is split off where no other follows it. -/
theorem splitSign_append {sign digits : List Char} {negative : Bool} (h : IsSign sign negative)
    (hminus : digits.head? ≠ some '-') (hplus : digits.head? ≠ some '+') :
    splitSign (sign ++ digits) = (negative, digits) := by
  cases h with
  | plus | minus => rfl
  | absent =>
    fun_cases splitSign digits with
    | case1 => exact absurd rfl hminus
    | case2 => exact absurd rfl hplus
    | case3 => rfl

/-- Digits of any script are no sign, nor is a point behind them. -/
theorem splitSign_append_digits {sign digits : List Char} {negative : Bool} (h : IsSign sign negative)
    (hdigits : ∀ c ∈ digits, Unicode.decimalNumber.contains c = true) {rest : List Char}
    (hrest : rest = [] ∨ rest.head? = some '.') :
    splitSign (sign ++ (digits ++ rest)) = (negative, digits ++ rest) := by
  have hhead (c : Char) (hdigit : c.isDigit = false) (hsmall : c.toNat < 0x660) (hpoint : c ≠ '.') :
      (digits ++ rest).head? ≠ some c := by
    cases digits with
    | nil =>
      rcases hrest with rfl | hrest
      · simp
      · rw [List.nil_append, hrest]
        simpa using hpoint.symm
    | cons first digits =>
      rintro ⟨⟩
      exact not_mem_of_decimalNumber hdigits hdigit hsmall List.mem_cons_self
  exact splitSign_append h (hhead '-' rfl (by decide) (by decide)) (hhead '+' rfl (by decide) (by decide))

/-! ## Numbers -/

theorem text_integer?_eq (text : List Char) :
    Text.integer? text = (Text.natural? (splitSign text).2).map fun (value : Nat) =>
      if (splitSign text).1 then -(value : Int) else value := by
  fun_cases splitSign text with
  | case1 rest => rfl
  | case2 rest => rfl
  | case3 text hminus hplus =>
    rw [Text.integer?.eq_def]
    split
    next => exact (hminus _ rfl).elim
    next => exact (hplus _ rfl).elim
    next => rfl

theorem text_integer?_eq_some {text : List Char} {value : Int} :
    Text.integer? text = some value ↔ IsInteger text value := by
  rw [text_integer?_eq, Option.map_eq_some_iff]
  constructor
  · rintro ⟨n, hn, rfl⟩
    obtain ⟨hne, hdigits, rfl⟩ := Text.natural?_eq_some.mp hn
    obtain ⟨sign, hsign, heq⟩ := exists_isSign text
    exact ⟨sign, _, _, hsign, heq, hne, hdigits, rfl⟩
  · rintro ⟨sign, negative, digits, hsign, rfl, hne, hdigits, rfl⟩
    have hsplit : splitSign (sign ++ (digits ++ [])) = (negative, digits ++ []) :=
      splitSign_append_digits hsign (fun c hc => decimalNumber_of_isDigit (hdigits c hc)) (.inl rfl)
    rw [List.append_nil] at hsplit
    rw [hsplit]
    exact ⟨_, Text.natural?_eq_some.mpr ⟨hne, hdigits, rfl⟩, rfl⟩

/-- The integers among the arguments are those that have 64 bits. -/
theorem integer?_eq_some {text : List Char} {value : Int} :
    integer? text = some value ↔ IsInteger text value ∧ minInt ≤ value ∧ value ≤ maxInt := by
  simp only [integer?, Option.bind_eq_bind, Option.bind_eq_some_iff, text_integer?_eq_some,
    Option.ite_none_right_eq_some, Option.some.injEq]
  constructor
  · rintro ⟨_, hvalue, hrange, rfl⟩
    exact ⟨hvalue, hrange⟩
  · rintro ⟨hvalue, hrange⟩
    exact ⟨value, hvalue, hrange, rfl⟩

/-- The greatest integer argument, and the integer after it. -/
example : integer? "9223372036854775807".toList = some (2 ^ 63 - 1) ∧
    integer? "+9223372036854775808".toList = none := by
  decide +kernel

/-- What is behind the digits of a run that has one of another script begins with such a digit. -/
theorem exists_dropWhile_isDigit {digits : List Char}
    (hdecimal : ∀ c ∈ digits, Unicode.decimalNumber.contains c = true)
    (hother : ¬ ∀ c ∈ digits, c.isDigit = true) (rest : List Char) :
    ∃ c behind, (digits ++ rest).dropWhile Char.isDigit = c :: behind ∧ 0x660 ≤ c.toNat := by
  induction digits with
  | nil => simp at hother
  | cons c digits ih =>
    obtain ⟨hfirst, hdecimal⟩ := List.forall_mem_cons.mp hdecimal
    rw [List.cons_append, List.dropWhile_cons]
    split
    next hdigit =>
      exact ih hdecimal fun hall => hother (List.forall_mem_cons.mpr ⟨hdigit, hall⟩)
    next hdigit => exact ⟨c, _, rfl, (isDigit_or_le_of_decimalNumber hfirst).resolve_left hdigit⟩

end Argument

namespace Binary64

open Argument

/-- A digit of another script begins no exponent. -/
theorem exponent?_eq_none {c : Char} {rest : List Char} (h : 0x660 ≤ c.toNat) :
    exponent? (c :: rest) = none := by
  have hsmall : c ≠ 'e' := by rintro rfl; revert h; decide
  have hlarge : c ≠ 'E' := by rintro rfl; revert h; decide
  simp [exponent?, hsmall, hlarge]

/-- What is written with a point is read if all of its digits are those from `0` to `9`. -/
theorem decimal?_eq_some {negative : Bool} {whole fraction : List Char} {number : Binary64}
    (hwhole : ∀ c ∈ whole, Unicode.decimalNumber.contains c = true) (hne : fraction ≠ [])
    (hfraction : ∀ c ∈ fraction, Unicode.decimalNumber.contains c = true) :
    decimal? negative (whole ++ '.' :: fraction) = some number ↔
      (∀ c ∈ whole, c.isDigit = true) ∧ (∀ c ∈ fraction, c.isDigit = true) ∧
        number = .ofDecimal negative (valueOfDigits (whole ++ fraction)) (-fraction.length) := by
  by_cases hdigits : ∀ c ∈ whole, c.isDigit = true
  swap
  · obtain ⟨c, behind, hdrop, hc⟩ := exists_dropWhile_isDigit hwhole hdigits ('.' :: fraction)
    have hpoint : c ≠ '.' := by rintro rfl; revert hc; decide
    simp only [decimal?, hdrop, hdigits, false_and, iff_false]
    split
    next heq => exact absurd (List.cons.inj heq).1 hpoint
    next => split <;> simp [exponent?_eq_none hc]
  have hpoint : ('.' : Char).isDigit = false := rfl
  have htake : (whole ++ '.' :: fraction).takeWhile Char.isDigit = whole := by
    rw [List.takeWhile_append_of_pos hdigits, List.takeWhile_cons, hpoint]
    simp
  have hdrop : (whole ++ '.' :: fraction).dropWhile Char.isDigit = '.' :: fraction := by
    rw [List.dropWhile_append_of_pos hdigits, List.dropWhile_cons, hpoint]
    simp
  by_cases hdigits' : ∀ c ∈ fraction, c.isDigit = true
  · have htake' : fraction.takeWhile Char.isDigit = fraction := List.takeWhile_eq_self_iff.mpr hdigits'
    have hdrop' : fraction.dropWhile Char.isDigit = [] := List.dropWhile_eq_nil_iff.mpr hdigits'
    have hread : decimal? negative (whole ++ '.' :: fraction) =
        some (.ofDecimal negative (valueOfDigits (whole ++ fraction)) (-fraction.length)) := by
      simp [decimal?, htake, hdrop, htake', hdrop', hne, exponent?, Text.digitsFrom_zero]
    rw [hread, Option.some.injEq]
    exact ⟨fun heq => ⟨hdigits, hdigits', heq.symm⟩, fun h => h.2.2.symm⟩
  · obtain ⟨c, behind, hbehind, hc⟩ := exists_dropWhile_isDigit hfraction hdigits' []
    rw [List.append_nil] at hbehind
    simp only [decimal?, htake, hdrop, hbehind, hdigits', false_and, and_false, iff_false]
    split <;> simp [exponent?_eq_none hc]

/-- A text with a point is no word. -/
theorem unsigned?_eq_decimal? {negative : Bool} {text : List Char} (hpoint : '.' ∈ text) :
    unsigned? negative text = decimal? negative text := by
  have hmem : '.' ∈ text.map Char.toLower := List.mem_map.mpr ⟨_, hpoint, rfl⟩
  have hword (word : List Char) (habsent : '.' ∉ word) :
      String.ofList (text.map Char.toLower) ≠ String.ofList word := by
    intro heq
    rw [String.ofList_injective heq] at hmem
    exact habsent hmem
  rw [unsigned?]
  split
  next heq => exact absurd heq (hword "inf".toList (by decide))
  next heq => exact absurd heq (hword "infinity".toList (by decide))
  next heq => exact absurd heq (hword "nan".toList (by decide))
  next => rfl

theorem parse?_eq (text : String) :
    parse? text = unsigned? (splitSign text.toList).1 (splitSign text.toList).2 := by
  rw [parse?]
  fun_cases splitSign text.toList with
  | case1 rest => rfl
  | case2 rest => rfl
  | case3 text hminus hplus =>
    split
    next => exact (hminus _ rfl).elim
    next => exact (hplus _ rfl).elim
    next => rfl

end Binary64

namespace Argument

/-- What is written with a point is read as the number that it stands for, if it stands for one. -/
theorem parse?_eq_some {value : String} (h : Numeral.decimal.Writes value.toList) {number : Binary64} :
    Binary64.parse? value = some number ↔ HasDecimalValue value.toList number := by
  rw [Binary64.parse?_eq]
  generalize value.toList = text at h
  constructor
  · intro hparse
    obtain @⟨-, -⟩ | ⟨signed, decimal, nonempty, decimal'⟩ := h
    rw [splitSign_append_digits signed decimal (.inr rfl), Binary64.unsigned?_eq_decimal? (by simp),
      Binary64.decimal?_eq_some decimal nonempty decimal'] at hparse
    obtain ⟨hwhole, hfraction, rfl⟩ := hparse
    exact ⟨_, _, _, _, signed, (List.append_assoc _ _ _).symm, hwhole, nonempty, hfraction, rfl⟩
  · rintro ⟨sign, negative, whole, fraction, hsign, rfl, hwhole, hne, hfraction, rfl⟩
    have decimal {digits : List Char} (hdigits : ∀ c ∈ digits, c.isDigit = true) (c : Char)
        (hc : c ∈ digits) : Unicode.decimalNumber.contains c = true :=
      decimalNumber_of_isDigit (hdigits c hc)
    rw [List.append_assoc, splitSign_append_digits hsign (decimal hwhole) (.inr rfl),
      Binary64.unsigned?_eq_decimal? (by simp),
      Binary64.decimal?_eq_some (decimal hwhole) hne (decimal hfraction)]
    exact ⟨hwhole, hfraction, rfl⟩

/-- An integer is written as one. -/
theorem writes_of_isInteger {text : List Char} {value : Int} (h : IsInteger text value) :
    Numeral.integer.Writes text := by
  obtain ⟨sign, negative, digits, hsign, rfl, hne, hdigits, -⟩ := h
  exact .integer hsign hne fun c hc => decimalNumber_of_isDigit (hdigits c hc)

/-- A decimal number is written with a point. -/
theorem writes_of_hasDecimalValue {text : List Char} {number : Binary64}
    (h : HasDecimalValue text number) : Numeral.decimal.Writes text := by
  obtain ⟨sign, negative, whole, fraction, hsign, rfl, hwhole, hne, hfraction, -⟩ := h
  rw [List.append_assoc]
  exact .decimal hsign (fun c hc => decimalNumber_of_isDigit (hwhole c hc)) hne
    fun c hc => decimalNumber_of_isDigit (hfraction c hc)

theorem isDecimal_iff {text : List Char} : IsDecimal text ↔ ∃ number, HasDecimalValue text number := by
  constructor
  · rintro ⟨sign, negative, whole, fraction, hsign, htext, hwhole, hne, hfraction⟩
    exact ⟨_, sign, negative, whole, fraction, hsign, htext, hwhole, hne, hfraction, rfl⟩
  · rintro ⟨_, sign, negative, whole, fraction, hsign, htext, hwhole, hne, hfraction, -⟩
    exact ⟨sign, negative, whole, fraction, hsign, htext, hwhole, hne, hfraction⟩

/-- A text stands for a number that is an argument. -/
def IsNumber (text : List Char) : Prop :=
  (∃ value, IsInteger text value ∧ minInt ≤ value ∧ value ≤ maxInt) ∨ IsDecimal text

/-- What a text is classified as: an integer of 64 bits, a decimal number, or itself. -/
theorem classify_cases (value : String) :
    (∃ n, (IsInteger value.toList n ∧ minInt ≤ n ∧ n ≤ maxInt) ∧ classify value = int n) ∨
    (∃ x, HasDecimalValue value.toList x ∧ classify value = float x) ∨
    (¬ IsNumber value.toList ∧ classify value = str value) := by
  simp only [IsNumber, isDecimal_iff, not_or]
  by_cases hinteger : Numeral.integer.Writes value.toList
  · have hdecimal (x : Binary64) (h : HasDecimalValue value.toList x) : False :=
      Numeral.not_writes_integer (writes_of_hasDecimalValue h) hinteger
    simp only [classify, Numeral.isMatch_iff.mpr hinteger, if_true, ← integer?_eq_some]
    cases hread : integer? value.toList with
    | some n => exact .inl ⟨n, rfl, rfl⟩
    | none => exact .inr (.inr ⟨⟨by simp, fun ⟨x, h⟩ => hdecimal x h⟩, rfl⟩)
  have hint (n : Int) (h : IsInteger value.toList n) : False := hinteger (writes_of_isInteger h)
  by_cases hdecimal : Numeral.decimal.Writes value.toList
  · simp only [classify, Numeral.isMatch_iff, hinteger, hdecimal, if_true, if_false,
      ← parse?_eq_some hdecimal]
    cases hread : Binary64.parse? value with
    | some x => exact .inr (.inl ⟨x, rfl, rfl⟩)
    | none => exact .inr (.inr ⟨⟨fun ⟨n, h, _⟩ => hint n h, by simp⟩, rfl⟩)
  · refine .inr (.inr ⟨⟨fun ⟨n, h, _⟩ => hint n h, fun ⟨x, h⟩ => ?_⟩, ?_⟩)
    · exact hdecimal (writes_of_hasDecimalValue h)
    · simp only [classify, Numeral.isMatch_iff, hinteger, hdecimal, if_false]

/-- A text stands for at most one number. -/
theorem not_isInteger_of_hasDecimalValue {text : List Char} {value : Int} {number : Binary64}
    (h : HasDecimalValue text number) : ¬ IsInteger text value := fun hinteger =>
  Numeral.not_writes_integer (writes_of_hasDecimalValue h) (writes_of_isInteger hinteger)

/-- What stands for no number stays as it is, and nothing else is a text. -/
theorem classify_eq_str {value text : String} :
    classify value = str text ↔ value = text ∧ ¬ IsNumber value.toList := by
  obtain ⟨n, hn, heq⟩ | ⟨x, hx, heq⟩ | ⟨hnumber, heq⟩ := classify_cases value
  · simp [heq, IsNumber, show ∃ n, IsInteger value.toList n ∧ minInt ≤ n ∧ n ≤ maxInt from ⟨n, hn⟩]
  · simp [heq, IsNumber, isDecimal_iff.mpr ⟨x, hx⟩]
  · simp [heq, hnumber]

/-- The integers among the arguments are those from the least to the greatest of 64 bits. -/
theorem inRange_iff {value : Int} :
    minInt ≤ value ∧ value ≤ maxInt ↔ -2 ^ 63 ≤ value ∧ value ≤ 2 ^ 63 - 1 := Iff.rfl

theorem classify_eq_int {value : String} {n : Int} :
    classify value = int n ↔ IsInteger value.toList n ∧ -2 ^ 63 ≤ n ∧ n ≤ 2 ^ 63 - 1 := by
  rw [← inRange_iff]
  obtain ⟨m, hm, heq⟩ | ⟨x, hx, heq⟩ | ⟨hnumber, heq⟩ := classify_cases value
  · rw [heq, int.injEq]
    constructor
    · rintro rfl
      exact hm
    · rintro ⟨hn, -⟩
      exact Option.some.inj ((text_integer?_eq_some.mpr hm.1).symm.trans (text_integer?_eq_some.mpr hn))
  · simp [heq, not_isInteger_of_hasDecimalValue hx]
  · simp only [heq, reduceCtorEq, false_iff]
    exact fun hn => hnumber (.inl ⟨n, hn⟩)

theorem classify_eq_float {value : String} {x : Binary64} :
    classify value = float x ↔ HasDecimalValue value.toList x := by
  obtain ⟨n, hn, heq⟩ | ⟨y, hy, heq⟩ | ⟨hnumber, heq⟩ := classify_cases value
  · rw [heq]
    exact iff_of_false (by simp) fun hx => not_isInteger_of_hasDecimalValue hx hn.1
  · rw [heq, float.injEq]
    have hparse {z : Binary64} : Binary64.parse? value = some z ↔ HasDecimalValue value.toList z :=
      parse?_eq_some (writes_of_hasDecimalValue hy)
    constructor
    · rintro rfl
      exact hy
    · intro hx
      exact Option.some.inj ((hparse.mpr hy).symm.trans (hparse.mpr hx))
  · simp only [heq, reduceCtorEq, false_iff]
    exact fun hx => hnumber (.inr (isDecimal_iff.mpr ⟨x, hx⟩))

/-! ## Quotes -/

theorem unquote?_eq_some {quote : Char} {text inner : List Char} :
    unquote? quote text = some inner ↔ text = quote :: (inner ++ [quote]) := by
  cases text with
  | nil => simp [unquote?]
  | cons first rest =>
    simp only [unquote?, Option.ite_none_right_eq_some, Option.some.injEq, List.cons.injEq, and_assoc]
    refine and_congr_right fun _ => ⟨?_, ?_⟩
    · rintro ⟨hlast, rfl⟩
      exact (List.dropLast_append_getLast? quote hlast).symm
    · rintro rfl
      simp

/-- Quotes are taken from a quoted text, and from no other. -/
theorem stripQuotes_eq_self {text : List Char} : stripQuotes text = text ↔ ¬ IsQuoted text := by
  have hlonger (quote : Char) (inner : List Char) : inner ≠ quote :: (inner ++ [quote]) :=
    fun heq => by
      have := congrArg List.length heq
      simp only [List.length_cons, List.length_append, List.length_nil] at this
      omega
  rw [stripQuotes]
  cases hdouble : unquote? '"' text with
  | some inner =>
    obtain rfl := unquote?_eq_some.mp hdouble
    exact iff_of_false (hlonger _ _) (not_not_intro ⟨_, inner, .inl rfl, rfl⟩)
  | none =>
    cases hsingle : unquote? '\'' text with
    | some inner =>
      obtain rfl := unquote?_eq_some.mp hsingle
      exact iff_of_false (hlonger _ _) (not_not_intro ⟨_, inner, .inr rfl, rfl⟩)
    | none =>
      refine iff_of_true rfl ?_
      rintro ⟨quote, inner, rfl | rfl, heq⟩
      · simp [unquote?_eq_some.mpr heq] at hdouble
      · simp [unquote?_eq_some.mpr heq] at hsingle

theorem unquotes_stripQuotes (text : List Char) : Unquotes text (stripQuotes text) := by
  cases hdouble : unquote? '"' text with
  | some inner =>
    obtain rfl := unquote?_eq_some.mp hdouble
    rw [stripQuotes, hdouble]
    exact .quoted (.inl rfl)
  | none =>
    cases hsingle : unquote? '\'' text with
    | some inner =>
      obtain rfl := unquote?_eq_some.mp hsingle
      rw [stripQuotes, hdouble, hsingle]
      exact .quoted (.inr rfl)
    | none =>
      have hsame : stripQuotes text = text := by rw [stripQuotes, hdouble, hsingle]; rfl
      rw [hsame]
      exact .plain (stripQuotes_eq_self.mp hsame)

/-- Without a resolver a captured text is delivered as it is if there are no quotes around it and it
stands for no number, and only then. -/
theorem coerce_none_eq_str {raw : String} :
    coerce none raw = str raw ↔ ¬ IsQuoted raw.toList ∧ ¬ IsNumber raw.toList := by
  rw [coerce, Option.elim_none, classify_eq_str, ← stripQuotes_eq_self]
  constructor
  · rintro ⟨heq, hnumber⟩
    have hsame : stripQuotes raw.toList = raw.toList := by simpa using congrArg String.toList heq
    rw [hsame] at hnumber
    exact ⟨hsame, by simpa using hnumber⟩
  · rintro ⟨hsame, hnumber⟩
    rw [hsame]
    exact ⟨String.ofList_toList, by simpa using hnumber⟩

/-- A captured value loses at most one pair of quotes, is resolved, and is classified then. It becomes an
integer exactly if it is written as one of 64 bits, and a decimal number exactly if it is written as one;
otherwise it is a text, and unchanged. -/
theorem coerce_classifies (resolver : Option Resolver) (raw : String) :
    ∃ inner, Unquotes raw.toList inner ∧
      let value := resolver.elim (String.ofList inner) fun resolve => resolve (String.ofList inner)
      (∀ n, coerce resolver raw = int n ↔
        IsInteger value.toList n ∧ -2 ^ 63 ≤ n ∧ n ≤ 2 ^ 63 - 1) ∧
      (∀ x, coerce resolver raw = float x ↔ HasDecimalValue value.toList x) ∧
      (∀ text, coerce resolver raw = str text ↔ value = text ∧
        (¬ ∃ n, IsInteger value.toList n ∧ -2 ^ 63 ≤ n ∧ n ≤ 2 ^ 63 - 1) ∧
          ¬ IsDecimal value.toList) := by
  refine ⟨_, unquotes_stripQuotes _, fun n => classify_eq_int, fun x => classify_eq_float, fun text => ?_⟩
  rw [coerce, classify_eq_str, IsNumber, not_or]
  rfl

end Argument

end Acceptance
