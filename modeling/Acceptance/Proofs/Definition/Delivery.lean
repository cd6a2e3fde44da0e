import Acceptance.Proofs.Argument
import Acceptance.Proofs.Definition.FirstMatch
import Acceptance.Proofs.Pattern.Slot
import Acceptance.ScenarioRun

/-!
# What placeholders deliver

The argument for a placeholder is made of the value of its slot in the text of the step. A value between
quotes goes through the same coercion as all others, so that a number is no text any more, and quotes of
the other kind that stand inside are taken off as well. A placeholder for integers takes the digits of all
scripts, of which only those from `0` to `9` are read as a number.
-/

namespace Acceptance

open Expression

/-- What a context has at a position, as text. -/
theorem StepContext.str_eq_ok {context : StepContext} {number : Nat} {argument : Argument}
    (h : context.arg number = .ok argument) {text : String} :
    context.str number = .ok text ↔ argument.str? = some text := by
  simp only [str, typed, h]
  cases hstr : argument.str? with
  | none => simp [bind, Except.bind, hstr]
  | some value => simp [bind, Except.bind, hstr]

/-- A context has an integer at a position exactly if its argument there is one. -/
theorem StepContext.int_of_arg {context : StepContext} {number : Nat} {argument : Argument}
    (h : context.arg number = .ok argument) :
    context.int number = match argument with
      | .int value => .ok value
      | other => .error (.mismatch number .int other.kind) := by
  simp only [int, typed, h]
  cases argument <;> rfl

theorem Argument.str?_classify {value text : String} :
    (classify value).str? = some text ↔ classify value = str text := by
  obtain ⟨n, -, heq⟩ | ⟨x, -, heq⟩ | ⟨-, heq⟩ := classify_cases value <;> simp [heq, str?]

/-! ## Digits -/

/-- Digits are delivered as the integer that they stand for, if they are those from `0` to `9` and it is
an argument, and as they are otherwise. -/
theorem Argument.coerce_digits {digits : List Char} (hne : digits ≠ [])
    (hdecimal : ∀ c ∈ digits, Unicode.decimalNumber.contains c = true) :
    ((∀ c ∈ digits, c.isDigit = true) ∧ valueOfDigits digits < 2 ^ 63 →
      coerce none (String.ofList digits) = int (valueOfDigits digits)) ∧
    (¬ ((∀ c ∈ digits, c.isDigit = true) ∧ valueOfDigits digits < 2 ^ 63) →
      coerce none (String.ofList digits) = str (String.ofList digits)) := by
  have hplain {c : Char} (hdigit : c.isDigit = false) (hsmall : c.toNat < 0x660) : c ∉ digits :=
    not_mem_of_decimalNumber hdecimal hdigit hsmall
  have hquoted : ¬ IsQuoted digits := by
    rintro ⟨quote, inner, rfl | rfl, rfl⟩
    · exact hplain rfl (by decide) List.mem_cons_self
    · exact hplain rfl (by decide) List.mem_cons_self
  have hcoerce : coerce none (String.ofList digits) = classify (String.ofList digits) := by
    rw [coerce, Option.elim_none, String.toList_ofList, stripQuotes_eq_self.mpr hquoted]
  rw [hcoerce]
  refine ⟨fun h => ?_, fun h => ?_⟩
  · rw [classify_eq_int, String.toList_ofList]
    exact ⟨⟨[], false, digits, .absent, rfl, hne, h.1, rfl⟩, by omega, by omega⟩
  · rw [classify_eq_str, String.toList_ofList]
    refine ⟨rfl, ?_⟩
    rintro (⟨value, ⟨sign, negative, own, hsign, rfl, -, hown, rfl⟩, hrange⟩ | hpoint)
    · cases hsign with
      | plus => exact hplain rfl (by decide) List.mem_cons_self
      | minus => exact hplain rfl (by decide) List.mem_cons_self
      | absent =>
        rw [inRange_iff] at hrange
        simp only [Bool.false_eq_true, if_false] at hrange
        exact h ⟨hown, by simp only [List.nil_append]; omega⟩
    · obtain ⟨sign, negative, whole, fraction, -, rfl, -⟩ := hpoint
      exact hplain (c := '.') rfl (by decide) (by simp)

namespace Definitions

variable {η : Type}

/-- The value captured for a placeholder is that of a slot, and the argument for it is this value,
coerced. -/
theorem exists_slot_of_resolveStep? {definitions : Definitions η} {step : Step} {found : Resolution η}
    (hfound : definitions.resolveStep? step = some found) {limit : Option Nat} {expression : String}
    (hcompile : Matcher.compileWithin limit (.expression expression) = .ok found.definition.matcher)
    {number : Nat} {placeholder : Placeholder}
    (hplaceholder : (placeholders (pieces expression.toList))[number]? = some placeholder)
    (attempt : Nat) :
    ∃ word value, HasSlot (pieces expression.toList) step.text.toList number placeholder word value ∧
      ((found.definition.matcher.captures step.text).bind (·[number]?)) = some (String.ofList value) ∧
      (ScenarioRunner.stepContext step found.args attempt).arg number =
        .ok (Argument.coerce definitions.resolver (String.ofList value)) := by
  obtain ⟨plain, hplain, rfl⟩ := Option.map_eq_some_iff.mp hfound
  obtain ⟨definition, hmatched⟩ := List.exists_of_findSome?_eq_some hplain
  obtain ⟨values, hcaptures, rfl⟩ := matched?_eq_some.mp hmatched.2
  obtain ⟨word, value, slot, hvalue⟩ :=
    Matcher.exists_slot_of_captures hcompile hcaptures hplaceholder
  refine ⟨word, value, slot, by rw [hcaptures]; exact hvalue, ?_⟩
  -- What is attached to the step comes behind all values of its text.
  have hlength : number < (values.map (Argument.coerce definitions.resolver)).length := by
    rw [List.length_map]
    exact (List.getElem?_eq_some_iff.mp hvalue).1
  simp only [ScenarioRunner.stepContext, StepContext.arg, List.getElem?_append_left hlength,
    List.getElem?_map, hvalue, Option.map_some]

/-- A placeholder for quoted text delivers what stands between the quotes if that is in no further quotes
and stands for no number, and only then: it is coerced like any other value. -/
theorem quoted_delivers_text_iff {definitions : Definitions η} (hresolver : definitions.resolver = none)
    {step : Step} {found : Resolution η} (hfound : definitions.resolveStep? step = some found)
    {limit : Option Nat} {expression : String}
    (hcompile : Matcher.compileWithin limit (.expression expression) = .ok found.definition.matcher)
    {number : Nat}
    (hplaceholder : (placeholders (pieces expression.toList))[number]? = some .string)
    (attempt : Nat) :
    ∃ quote inner, (quote = '"' ∨ quote = '\'') ∧ quote ∉ inner ∧
      HasSlot (pieces expression.toList) step.text.toList number .string
        (quote :: (inner ++ [quote])) inner ∧
      ((found.definition.matcher.captures step.text).bind (·[number]?)) = some (String.ofList inner) ∧
      let context := ScenarioRunner.stepContext step found.args attempt
      context.arg number = .ok (Argument.coerce none (String.ofList inner)) ∧
      (∀ text, context.str number = .ok text ↔
        text = String.ofList (Argument.stripQuotes inner) ∧
          ¬ Argument.IsNumber (Argument.stripQuotes inner)) ∧
      (context.str number = .ok (String.ofList inner) ↔
        ¬ IsQuoted inner ∧ ¬ Argument.IsNumber inner) := by
  obtain ⟨word, inner, slot, hcaptured, harg⟩ :=
    exists_slot_of_resolveStep? hfound hcompile hplaceholder attempt
  rw [hresolver] at harg
  obtain ⟨quote, hquote, hinside, rfl⟩ : ∃ quote, (quote = '"' ∨ quote = '\'') ∧ quote ∉ inner ∧
      word = quote :: (inner ++ [quote]) := by
    obtain ⟨-, -, -, -, reads, -, -⟩ := slot
    cases reads with
    | string kind inside => exact ⟨_, kind, inside, rfl⟩
  refine ⟨quote, inner, hquote, hinside, slot, hcaptured, harg, fun text => ?_, ?_⟩
  · rw [StepContext.str_eq_ok harg, Argument.coerce, Option.elim_none, Argument.str?_classify,
      Argument.classify_eq_str]
    simp [eq_comm]
  · rw [StepContext.str_eq_ok harg, Argument.coerce, Argument.str?_classify, ← Argument.coerce,
      Argument.coerce_none_eq_str, String.toList_ofList]

/-- The only definition there is, by an expression that takes the text of a step. -/
theorem exists_resolveStep? {step : Step} {expression : String} {values : List String}
    (hcaptures : ∃ matcher, Matcher.compileWithin none (.expression expression) = .ok matcher ∧
      matcher.captures step.text = some values) :
    ∃ definitions : Definitions Unit, definitions.resolver = none ∧ ∃ found,
      definitions.resolveStep? step = some found ∧
        found.args = values.map (Argument.coerce none) ++ Argument.attachments step ∧
          Matcher.compileWithin none (.expression expression) = .ok found.definition.matcher ∧
            found.definition.matcher.captures step.text = some values := by
  obtain ⟨matcher, hcompile, hcaptures⟩ := hcaptures
  let definition : Definition Unit := ⟨0, matcher, (), {}, ⟨"steps.rs", 1, 1⟩⟩
  refine ⟨{ entries := [definition], resolution := [0], listed := listed_singleton }, rfl, ⟨definition, _⟩, ?_, rfl, hcompile, hcaptures⟩
  rw [resolveStep?, resolve?_of_singleton rfl hcaptures]
  rfl

/-! ## A number between quotes -/

/-- An expression for something that is said between quotes. -/
def saying : String := "I say \x7bstring\x7d"

/-- A step that says a number between quotes. -/
def sayNumber : Step := { keyword := "When ", text := "I say \"42\"" }

theorem pieces_saying :
    pieces saying.toList = "I say ".toList.map .literal ++ [.placeholder "string".toList] := by
  cbv

theorem captures_saying :
    ∃ matcher, Matcher.compileWithin none (.expression saying) = .ok matcher ∧
      matcher.captures sayNumber.text = some ["42"] := by
  refine ⟨_, rfl, ?_⟩
  simp only [pieces_saying]
  decide +kernel

theorem isDigit_fortyTwo : ∀ c ∈ ['4', '2'], c.isDigit = true := by simp

theorem valueOfDigits_fortyTwo : valueOfDigits ['4', '2'] = 42 := by decide

theorem coerce_fortyTwo : Argument.coerce none "42" = .int 42 := by
  have hdecimal (c : Char) (hc : c ∈ ['4', '2']) : Unicode.decimalNumber.contains c = true :=
    decimalNumber_of_isDigit (isDigit_fortyTwo c hc)
  have hcoerce := (Argument.coerce_digits (List.cons_ne_nil _ _) hdecimal).1
    ⟨isDigit_fortyTwo, by rw [valueOfDigits_fortyTwo]; omega⟩
  rwa [valueOfDigits_fortyTwo] at hcoerce

/-- Where the expression is the only one, the step is resolved to it, with an integer. -/
theorem resolveStep?_saying :
    ∃ definitions : Definitions Unit, definitions.resolver = none ∧ ∃ found,
      definitions.resolveStep? sayNumber = some found ∧ found.args = [.int 42] ∧
        Matcher.compileWithin none (.expression saying) = .ok found.definition.matcher ∧
          (placeholders (pieces saying.toList))[0]? = some .string := by
  obtain ⟨definitions, hresolver, found, hfound, hargs, hcompile, -⟩ :=
    exists_resolveStep? captures_saying
  refine ⟨definitions, hresolver, found, hfound, ?_, hcompile, ?_⟩
  · rw [hargs, List.map_singleton, coerce_fortyTwo]
    rfl
  · rw [pieces_saying]
    rfl

/-- The number comes as an integer, and not as the text between the quotes. -/
theorem saying_delivers_number :
    ∃ definitions : Definitions Unit, definitions.resolver = none ∧ ∃ found,
      definitions.resolveStep? sayNumber = some found ∧
        Matcher.compileWithin none (.expression saying) = .ok found.definition.matcher ∧
          (placeholders (pieces saying.toList))[0]? = some .string ∧
            (ScenarioRunner.stepContext sayNumber found.args 1).arg 0 = .ok (.int 42) ∧
              (ScenarioRunner.stepContext sayNumber found.args 1).str 0 =
                .error (.mismatch 0 .string .int) := by
  obtain ⟨definitions, hresolver, found, hfound, hargs, hcompile, hplaceholder⟩ := resolveStep?_saying
  refine ⟨definitions, hresolver, found, hfound, hcompile, hplaceholder, ?_, ?_⟩ <;> rw [hargs] <;> rfl

theorem quoted_delivers_text_iff_saying :
    ∃ definitions : Definitions Unit, ∃ found,
      definitions.resolveStep? sayNumber = some found ∧
        ∃ inner, ((found.definition.matcher.captures sayNumber.text).bind (·[0]?)) =
            some (String.ofList inner) ∧
          ((ScenarioRunner.stepContext sayNumber found.args 1).str 0 = .ok (String.ofList inner) ↔
            ¬ IsQuoted inner ∧ ¬ Argument.IsNumber inner) := by
  obtain ⟨definitions, hresolver, found, hfound, -, hcompile, hplaceholder⟩ := resolveStep?_saying
  obtain ⟨quote, inner, -, -, -, hcaptured, -, -, htext⟩ :=
    quoted_delivers_text_iff hresolver hfound hcompile hplaceholder 1
  exact ⟨definitions, found, hfound, inner, hcaptured, htext⟩

/-! ## Integers -/

/-- A placeholder for integers delivers the value of its digits if they are those from `0` to `9` and the
value has 64 bits with its sign. Digits of other scripts are taken as well, but are delivered as text, as
are those of a value that is too large. -/
theorem digits_deliver_integer_iff {definitions : Definitions η}
    (hresolver : definitions.resolver = none) {step : Step} {found : Resolution η}
    (hfound : definitions.resolveStep? step = some found) {limit : Option Nat} {expression : String}
    (hcompile : Matcher.compileWithin limit (.expression expression) = .ok found.definition.matcher)
    {number : Nat} (hplaceholder : (placeholders (pieces expression.toList))[number]? = some .int)
    (attempt : Nat) :
    ∃ digits, digits ≠ [] ∧ (∀ c ∈ digits, Unicode.decimalNumber.contains c = true) ∧
      HasSlot (pieces expression.toList) step.text.toList number .int digits digits ∧
      ((found.definition.matcher.captures step.text).bind (·[number]?)) =
        some (String.ofList digits) ∧
      let context := ScenarioRunner.stepContext step found.args attempt
      ((∀ c ∈ digits, c.isDigit = true) ∧ valueOfDigits digits < 2 ^ 63 →
        context.arg number = .ok (.int (valueOfDigits digits)) ∧
          context.int number = .ok (valueOfDigits digits)) ∧
      (¬ ((∀ c ∈ digits, c.isDigit = true) ∧ valueOfDigits digits < 2 ^ 63) →
        context.arg number = .ok (.str (String.ofList digits)) ∧
          context.int number = .error (.mismatch number .int .string)) := by
  obtain ⟨word, digits, slot, hcaptured, harg⟩ :=
    exists_slot_of_resolveStep? hfound hcompile hplaceholder attempt
  obtain ⟨rfl, hne, hdecimal⟩ : word = digits ∧ digits ≠ [] ∧
      ∀ c ∈ digits, Unicode.decimalNumber.contains c = true := by
    obtain ⟨-, -, -, -, reads, -, -⟩ := slot
    cases reads with
    | int nonempty decimal => exact ⟨rfl, nonempty, decimal⟩
  obtain ⟨hinteger, htext⟩ := Argument.coerce_digits hne hdecimal
  rw [hresolver] at harg
  refine ⟨word, hne, hdecimal, slot, hcaptured, fun h => ?_, fun h => ?_⟩
  · rw [hinteger h] at harg
    exact ⟨harg, StepContext.int_of_arg harg⟩
  · rw [htext h] at harg
    exact ⟨harg, StepContext.int_of_arg harg⟩

/-- An expression for something that is counted. -/
def counting : String := "I have \x7bint\x7d apples"

/-- A step with some digits for the number that is counted. -/
def count (digits : List Char) : Step :=
  { keyword := "Given ", text := "I have " ++ String.ofList digits ++ " apples" }

theorem pieces_counting :
    pieces counting.toList = "I have ".toList.map .literal ++
      .placeholder "int".toList :: (" apples".toList.map .literal ++ []) := by
  cbv

theorem captures_count {digits : List Char} (hne : digits ≠ [])
    (hdecimal : ∀ c ∈ digits, Unicode.decimalNumber.contains c = true) :
    ∃ matcher, Matcher.compileWithin none (.expression counting) = .ok matcher ∧
      matcher.captures (count digits).text = some [String.ofList digits] := by
  have htext : (count digits).text.toList = "I have ".toList ++ (digits ++ " apples".toList) := by
    simp [count]
  have hint : placeholderOf "int".toList = .int := rfl
  have hsplits : Splits (pieces counting.toList) (count digits).text.toList [digits] := by
    rw [htext, pieces_counting, splits_literals_append]
    refine ⟨_, rfl, .placeholder (hint ▸ .int hne hdecimal) ?_⟩
    exact splits_literals_append.mpr ⟨[], (List.append_nil _).symm, .nil⟩
  obtain ⟨matcher, hcompile, hsome⟩ := Matcher.exists_captures hsplits
  obtain ⟨values, hvalues⟩ := Option.isSome_iff_exists.mp hsome
  refine ⟨matcher, hcompile, ?_⟩
  -- There is no other way in which the text splits.
  have hother := Matcher.splits_of_captures hcompile hvalues
  rw [htext, pieces_counting, splits_literals_append] at hother
  obtain ⟨rest, hrest, hother⟩ := hother
  obtain rfl := List.append_cancel_left hrest
  generalize hwhole : digits ++ " apples".toList = whole at hother
  generalize hgiven : values.map String.toList = given at hother
  cases hother with
  | placeholder reads rest =>
    obtain ⟨behind, rfl, ends⟩ := splits_literals_append.mp rest
    cases ends
    rw [hint] at reads
    cases reads
    rw [List.append_nil] at hwhole
    obtain rfl := List.append_cancel_right hwhole
    rw [hvalues]
    simpa using congrArg (List.map String.ofList) hgiven

/-- Where the expression is the only one, the step is resolved to it, with its digits. -/
theorem resolveStep?_count {digits : List Char} (hne : digits ≠ [])
    (hdecimal : ∀ c ∈ digits, Unicode.decimalNumber.contains c = true) :
    ∃ definitions : Definitions Unit, definitions.resolver = none ∧ ∃ found,
      definitions.resolveStep? (count digits) = some found ∧
        found.args = [Argument.coerce none (String.ofList digits)] ∧
          Matcher.compileWithin none (.expression counting) = .ok found.definition.matcher ∧
            (placeholders (pieces counting.toList))[0]? = some .int ∧
              (found.definition.matcher.captures (count digits).text).bind (·[0]?) =
                some (String.ofList digits) := by
  obtain ⟨definitions, hresolver, found, hfound, hargs, hcompile, hcaptures⟩ :=
    exists_resolveStep? (captures_count hne hdecimal)
  refine ⟨definitions, hresolver, found, hfound, ?_, hcompile, ?_, ?_⟩
  · rw [hargs]
    rfl
  · rw [pieces_counting]
    rfl
  · rw [hcaptures]
    rfl

/-- Three apples are counted in the digits of the Arabic script. The digit is taken, but comes as text, and
there is no integer to be had, although three is none that is too large. -/
theorem count_delivers_text :
    ∃ definitions : Definitions Unit, definitions.resolver = none ∧ ∃ found,
      definitions.resolveStep? (count ['\u0663']) = some found ∧
        Matcher.compileWithin none (.expression counting) = .ok found.definition.matcher ∧
          (placeholders (pieces counting.toList))[0]? = some .int ∧
            (found.definition.matcher.captures (count ['\u0663']).text).bind (·[0]?) =
              some "\u0663" ∧
            (ScenarioRunner.stepContext (count ['\u0663']) found.args 1).arg 0 =
              .ok (.str "\u0663") ∧
            (ScenarioRunner.stepContext (count ['\u0663']) found.args 1).int 0 =
              .error (.mismatch 0 .int .string) := by
  have hdecimal : Unicode.decimalNumber.contains '\u0663' = true :=
    CharSet.contains_ofRanges.mpr ⟨(0x660, 0x669), by decide, by decide, by decide⟩
  obtain ⟨definitions, hresolver, found, hfound, hargs, hcompile, hplaceholder, hcaptured⟩ :=
    resolveStep?_count (List.cons_ne_nil _ _) (List.forall_mem_singleton.mpr hdecimal)
  have hcoerce : Argument.coerce none "\u0663" = .str "\u0663" :=
    (Argument.coerce_digits (List.cons_ne_nil _ _) (List.forall_mem_singleton.mpr hdecimal)).2
      fun h => absurd (h.1 _ List.mem_cons_self) (by decide)
  refine ⟨definitions, hresolver, found, hfound, hcompile, hplaceholder, hcaptured, ?_, ?_⟩ <;>
    rw [hargs, hcoerce] <;> rfl

theorem digits_deliver_integer_iff_count :
    ∃ definitions : Definitions Unit, ∃ found,
      definitions.resolveStep? (count ['4', '2']) = some found ∧
        (ScenarioRunner.stepContext (count ['4', '2']) found.args 1).int 0 = .ok 42 := by
  obtain ⟨definitions, hresolver, found, hfound, -, hcompile, hplaceholder, hcaptured⟩ :=
    resolveStep?_count (List.cons_ne_nil _ _) fun c hc =>
      decimalNumber_of_isDigit (isDigit_fortyTwo c hc)
  obtain ⟨digits, -, -, -, hgiven, hinteger, -⟩ :=
    digits_deliver_integer_iff hresolver hfound hcompile hplaceholder 1
  obtain rfl : digits = ['4', '2'] :=
    String.ofList_injective (Option.some.inj (hgiven.symm.trans hcaptured))
  rw [valueOfDigits_fortyTwo] at hinteger
  exact ⟨definitions, found, hfound, (hinteger ⟨isDigit_fortyTwo, by omega⟩).2⟩

end Definitions

end Acceptance
