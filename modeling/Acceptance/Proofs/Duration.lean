import Acceptance.Duration
import Acceptance.Proofs.Text

/-!
# Durations as text

The text of a duration is a sum of amounts in falling units, and reading it adds them up again. No step of
this goes beyond 64 bits, so every duration whose seconds fit them is read back from its text.
-/

namespace Acceptance.Duration

/-- Texts are amounts, each a count and a name of its unit, and come to a number of nanoseconds. What is
counted in a unit shorter than a second is shorter than one. -/
inductive Amounts : List String → Nat → Prop
  | nil : Amounts [] 0
  | cons {texts : List String} {nanoseconds : Nat} (count : Nat) (unit : Unit) (name : String)
      (hname : name ∈ unit.names)
      (hshort : unit.nanoseconds < nanosecondsPerSecond → count * unit.nanoseconds < nanosecondsPerSecond)
      (hrest : Amounts texts nanoseconds) :
      Amounts ((toString count ++ name) :: texts) (count * unit.nanoseconds + nanoseconds)

variable {texts more : List String} {nanoseconds others : Nat} {unit : Unit} {name : String}

/-! ## Texts of durations -/

theorem Amounts.append (h : Amounts texts nanoseconds) (hmore : Amounts more others) :
    Amounts (texts ++ more) (nanoseconds + others) := by
  induction h with
  | nil => simpa using hmore
  | cons count unit name hname hshort _ ih =>
      rw [List.cons_append, Nat.add_assoc]
      exact ih.cons count unit name hname hshort

theorem Amounts.single (count : Nat) (unit : Unit) (name : String) (hname : name ∈ unit.names)
    (hshort : unit.nanoseconds < nanosecondsPerSecond → count * unit.nanoseconds < nanosecondsPerSecond) :
    Amounts [toString count ++ name] (count * unit.nanoseconds) :=
  Amounts.nil.cons count unit name hname hshort

theorem amounts_symbol (unit : Unit) (name : String) (count : Nat) (hname : name ∈ unit.names)
    (hshort : unit.nanoseconds < nanosecondsPerSecond → count * unit.nanoseconds < nanosecondsPerSecond) :
    Amounts (symbol name count) (count * unit.nanoseconds) := by
  by_cases hnone : count = 0
  · simpa [symbol, hnone] using Amounts.nil
  · simpa [symbol, hnone] using Amounts.single count unit name hname hshort

theorem amounts_plural (unit : Unit) (name : String) (count : Nat) (hname : name ∈ unit.names)
    (hnames : name ++ "s" ∈ unit.names) (hlong : ¬ unit.nanoseconds < nanosecondsPerSecond) :
    Amounts (plural name count) (count * unit.nanoseconds) := by
  have hshort : unit.nanoseconds < nanosecondsPerSecond → count * unit.nanoseconds < nanosecondsPerSecond :=
    fun hlt => absurd hlt hlong
  by_cases hnone : count = 0
  · simpa [plural, hnone] using Amounts.nil
  · by_cases hmany : count > 1
    · simpa [plural, hnone, hmany, String.append_assoc] using
        Amounts.single count unit (name ++ "s") hnames hshort
    · simpa [plural, hnone, hmany] using Amounts.single count unit name hname hshort

/-- Whole seconds are told in units from years to seconds. -/
theorem amounts_seconds (seconds : Nat) :
    Amounts (plural "year" (seconds / 31557600) ++ plural "month" (seconds % 31557600 / 2630016) ++
        plural "day" (seconds % 31557600 % 2630016 / 86400) ++
        symbol "h" (seconds % 31557600 % 2630016 % 86400 / 3600) ++
        symbol "m" (seconds % 31557600 % 2630016 % 86400 % 3600 / 60) ++
        symbol "s" (seconds % 31557600 % 2630016 % 86400 % 60))
      (seconds * nanosecondsPerSecond) := by
  have hyears := amounts_plural .year "year" (seconds / 31557600) (by decide) (by decide) (by decide)
  have hmonths := amounts_plural .month "month" (seconds % 31557600 / 2630016) (by decide) (by decide)
    (by decide)
  have hdays := amounts_plural .day "day" (seconds % 31557600 % 2630016 / 86400) (by decide) (by decide)
    (by decide)
  have hhours := amounts_symbol .hour "h" (seconds % 31557600 % 2630016 % 86400 / 3600) (by decide)
    fun hshort => absurd hshort (by decide)
  have hminutes := amounts_symbol .minute "m" (seconds % 31557600 % 2630016 % 86400 % 3600 / 60) (by decide)
    fun hshort => absurd hshort (by decide)
  have hseconds := amounts_symbol .second "s" (seconds % 31557600 % 2630016 % 86400 % 60) (by decide)
    fun hshort => absurd hshort (by decide)
  convert ((((hyears.append hmonths).append hdays).append hhours).append hminutes).append hseconds using 1
  simp only [Unit.nanoseconds, nanosecondsPerSecond]
  omega

/-- What is left of a second is told in units from milliseconds to nanoseconds. -/
theorem amounts_subsecond {subsecond : Nat} (h : subsecond < nanosecondsPerSecond) :
    Amounts (symbol "ms" (subsecond / 1000000) ++ symbol "us" (subsecond / 1000 % 1000) ++
        symbol "ns" (subsecond % 1000)) subsecond := by
  have hmillis := amounts_symbol .millisecond "ms" (subsecond / 1000000) (by decide) (by
    intro _
    exact (Nat.div_mul_le_self _ _).trans_lt h)
  have hmicros := amounts_symbol .microsecond "us" (subsecond / 1000 % 1000) (by decide) (by
    intro _
    simp only [Unit.nanoseconds, nanosecondsPerSecond]
    omega)
  have hnanos := amounts_symbol .nanosecond "ns" (subsecond % 1000) (by decide) (by
    intro _
    simp only [Unit.nanoseconds, nanosecondsPerSecond]
    omega)
  convert (hmillis.append hmicros).append hnanos using 1
  simp only [Unit.nanoseconds]
  omega

/-- The text of a duration is a sum of amounts that come to it. -/
theorem exists_amounts (d : Duration) :
    ∃ texts, texts ≠ [] ∧ d.toText = Text.join " " texts ∧ Amounts texts d.nanoseconds := by
  by_cases hzero : d.nanoseconds = 0
  · refine ⟨["0s"], List.cons_ne_nil _ _, by simp [toText, hzero, Text.join], ?_⟩
    rw [hzero]
    exact Amounts.single 0 .second "s" (by decide) (by decide)
  · have hsubsecond : d.subsecond < nanosecondsPerSecond := Nat.mod_lt _ (by decide)
    have hwhole : d.seconds * nanosecondsPerSecond + d.subsecond = d.nanoseconds :=
      Nat.div_add_mod' _ _
    have hamounts := (amounts_seconds d.seconds).append (amounts_subsecond hsubsecond)
    rw [hwhole] at hamounts
    refine ⟨_, ?_, ?_, hamounts⟩
    · intro hnone
      rw [hnone] at hamounts
      generalize d.nanoseconds = nanoseconds at hamounts hzero
      cases hamounts
      exact hzero rfl
    · simp only [toText, if_neg hzero, List.append_assoc]

/-! ## Reading amounts -/

/-- The names of units are words of letters, and no two units share one. -/
theorem name_of_unit (hname : name ∈ unit.names) :
    name.toList ≠ [] ∧ Unit.ofName? name = some unit ∧
      ∀ c ∈ name.toList, isUnitLetter c = true ∧ c.isDigit = false ∧ Text.isBlank c = false := by
  have hall : (unit.names.all fun name => !name.toList.isEmpty && (Unit.ofName? name == some unit) &&
      name.toList.all fun c => isUnitLetter c && !c.isDigit && !Text.isBlank c) = true := by
    cases unit <;> decide +kernel
  simpa [and_assoc] using List.all_eq_true.mp hall name hname

theorem checked_of_lt {n : Nat} (h : n < wordLimit) : checked n = some n := if_pos h

/-- Digits are read up to the name of a unit, as long as they make a number of 64 bits. -/
theorem readNumber_digits {digits : List Char} {letter : Char} (hdigits : ∀ c ∈ digits, c.isDigit = true)
    (hletter : isUnitLetter letter = true ∧ letter.isDigit = false ∧ Text.isBlank letter = false)
    (rest : List Char) {value : Nat} (hfits : Text.digitsFrom value digits < wordLimit) :
    readNumber value (digits ++ letter :: rest) =
      some (Text.digitsFrom value digits, none, letter :: rest) := by
  induction digits generalizing value with
  | nil => simp [readNumber, hletter, Text.digitsFrom]
  | cons c digits ih =>
      obtain ⟨hc, hdigits⟩ := List.forall_mem_cons.mp hdigits
      have hnext : Text.digitsFrom value (c :: digits) =
          Text.digitsFrom (value * 10 + Text.digitValue c) digits := rfl
      rw [hnext] at hfits ⊢
      have happend : appendDigit value c = some (value * 10 + Text.digitValue c) :=
        checked_of_lt ((Text.le_digitsFrom _ _).trans_lt hfits)
      simp [readNumber, hc, happend, ih hdigits hfits]

/-- An amount begins with a digit, and its count is read up to its name. -/
theorem readNumber_amount (hname : name ∈ unit.names) {count : Nat} (hcount : count < wordLimit)
    (tail : List Char) :
    ∃ c rest, (toString count ++ name).toList ++ tail = c :: rest ∧ c.isDigit = true ∧
      readNumber (Text.digitValue c) rest = some (count, none, name.toList ++ tail) := by
  obtain ⟨hne, -, hletters⟩ := name_of_unit hname
  obtain ⟨letter, letters, hletter⟩ := List.exists_cons_of_ne_nil hne
  obtain ⟨c, digits, hdigits⟩ := List.exists_cons_of_ne_nil (Nat.toDigits_ne_nil (n := count) (b := 10))
  have hall : ∀ x ∈ c :: digits, x.isDigit = true := by
    intro x hx
    rw [← hdigits] at hx
    exact Text.isDigit_of_mem_toDigits hx
  have hvalue : Text.digitsFrom (Text.digitValue c) digits = count := by
    have hread := Text.digitsFrom_toDigits count
    rw [hdigits] at hread
    simpa [Text.digitsFrom] using hread
  rw [hletter] at hletters ⊢
  refine ⟨c, digits ++ letter :: (letters ++ tail), by simp [hdigits, hletter], hall c (by simp), ?_⟩
  rw [readNumber_digits (fun x hx => hall x (by simp [hx])) (hletters letter (by simp)) _
    (hvalue.symm ▸ hcount), hvalue]
  rfl

/-- The name of a unit is read up to what is no letter. -/
theorem name_ends (hname : name ∈ unit.names) {tail : List Char}
    (htail : ∀ c ∈ tail.head?, isUnitLetter c = false) :
    (name.toList ++ tail).takeWhile isUnitLetter = name.toList ∧
      (name.toList ++ tail).dropWhile isUnitLetter = tail := by
  obtain ⟨-, -, hletters⟩ := name_of_unit hname
  have hword : ∀ c ∈ name.toList, isUnitLetter c = true := fun c hc => (hletters c hc).1
  rw [List.takeWhile_append_of_pos hword, List.dropWhile_append_of_pos hword]
  cases tail with
  | nil => simp
  | cons c tail => simp [htail c rfl]

theorem grain_cases (unit : Unit) :
    unit.grain = 1 ∧ unit.nanoseconds < nanosecondsPerSecond ∨
      unit.grain = nanosecondsPerSecond ∧ ¬ unit.nanoseconds < nanosecondsPerSecond := by
  by_cases hshort : unit.nanoseconds < nanosecondsPerSecond <;> simp [Unit.grain, hshort]

theorem grains_mul_grain (unit : Unit) :
    unit.nanoseconds / unit.grain * unit.grain = unit.nanoseconds := by
  cases unit <;> decide

theorem grains_pos (unit : Unit) : 0 < unit.nanoseconds / unit.grain := by
  cases unit <;> decide

section Sums

variable {count total : Nat}
  (hshort : unit.nanoseconds < nanosecondsPerSecond → count * unit.nanoseconds < nanosecondsPerSecond)
  (hfits : (total + count * unit.nanoseconds) / nanosecondsPerSecond < wordLimit)
include hshort hfits

theorem grains_lt : count * (unit.nanoseconds / unit.grain) < wordLimit := by
  rcases grain_cases unit with ⟨hgrain, hlt⟩ | ⟨hgrain, -⟩
  · rw [hgrain, Nat.div_one]
    exact (hshort hlt).trans (by decide)
  · refine lt_of_le_of_lt ?_ hfits
    rw [Nat.le_div_iff_mul_le (by decide), ← hgrain, Nat.mul_assoc, grains_mul_grain]
    exact Nat.le_add_left _ _

theorem count_lt : count < wordLimit :=
  (Nat.le_mul_of_pos_right count (grains_pos unit)).trans_lt (grains_lt hshort hfits)

/-- A whole amount is added where the sum fits. -/
theorem addAmount?_whole :
    addAmount? count none unit total = some (total + count * unit.nanoseconds) := by
  have hsum : total + count * (unit.nanoseconds / unit.grain) * unit.grain =
      total + count * unit.nanoseconds := by
    rw [Nat.mul_assoc, grains_mul_grain]
  have hroom : unit.grain = 1 →
      total % nanosecondsPerSecond + count * (unit.nanoseconds / unit.grain) < wordLimit := by
    intro hgrain
    rcases grain_cases unit with ⟨-, hlt⟩ | ⟨hlong, -⟩
    · have htotal : total % nanosecondsPerSecond < nanosecondsPerSecond := Nat.mod_lt _ (by decide)
      have hlimit : nanosecondsPerSecond + nanosecondsPerSecond < wordLimit := by decide
      rw [hgrain, Nat.div_one]
      exact (Nat.add_lt_add htotal (hshort hlt)).trans hlimit
    · exact absurd (hgrain.symm.trans hlong) (by decide)
  simpa [addAmount?, checked_of_lt (grains_lt hshort hfits), add?, hsum, hfits] using hroom

/-- One amount is read, and the blank behind it if there are more. -/
theorem readAmounts_cons (hname : name ∈ unit.names) {tail next : List Char}
    (htail : tail = [] ∧ next = [] ∨ tail = ' ' :: next) (rounds : Nat) :
    readAmounts (rounds + 1) total ((toString count ++ name).toList ++ tail) =
      readAmounts rounds (total + count * unit.nanoseconds) next := by
  obtain ⟨-, hunit, -⟩ := name_of_unit hname
  obtain ⟨c, rest, htext, hc, hread⟩ := readNumber_amount hname (count_lt hshort hfits) tail
  have hstop : ∀ c ∈ tail.head?, isUnitLetter c = false := by
    have hspace : isUnitLetter ' ' = false := by decide
    rcases htail with ⟨rfl, -⟩ | rfl <;> simp [hspace]
  obtain ⟨htake, hdrop⟩ := name_ends hname hstop
  have hblank : Text.trimLeft (c :: rest) = c :: rest := by
    simp [Text.trimLeft, Text.isBlank_of_isDigit hc]
  rw [htext, readAmounts, hblank]
  simp only [hc, hread, Option.bind_eq_bind, Option.bind_some, htake, hdrop, String.ofList_toList, hunit,
    addAmount?_whole hshort hfits, if_true]
  -- Behind the name there is nothing, or the blank before the next amount.
  rcases htail with ⟨rfl, rfl⟩ | rfl
  · rfl
  · rfl

end Sums

theorem join_cons (text : String) (texts : List String) :
    ∃ tail, (Text.join " " (text :: texts)).toList = text.toList ++ tail ∧
      (tail = [] ∧ (Text.join " " texts).toList = [] ∨ tail = ' ' :: (Text.join " " texts).toList) := by
  cases texts with
  | nil => exact ⟨[], by simp [Text.join]⟩
  | cons next texts => exact ⟨' ' :: (Text.join " " (next :: texts)).toList, by simp [Text.join]⟩

/-- Amounts are added up as long as the seconds of the sum fit 64 bits. -/
theorem Amounts.read (h : Amounts texts nanoseconds) {total rounds : Nat} (hrounds : texts.length < rounds)
    (hfits : (total + nanoseconds) / nanosecondsPerSecond < wordLimit) :
    readAmounts rounds total (Text.join " " texts).toList = some (total + nanoseconds) := by
  induction h generalizing total rounds with
  | nil =>
      obtain ⟨rounds, rfl⟩ := Nat.exists_eq_add_of_lt hrounds
      simp [readAmounts, Text.join, Text.trimLeft]
  | @cons texts nanoseconds count unit name hname hshort _ ih =>
      obtain ⟨rounds, rfl⟩ := Nat.exists_eq_succ_of_ne_zero (Nat.ne_zero_of_lt hrounds)
      obtain ⟨tail, htext, htail⟩ := join_cons (toString count ++ name) texts
      rw [← Nat.add_assoc] at hfits ⊢
      have hsum : (total + count * unit.nanoseconds) / nanosecondsPerSecond < wordLimit :=
        (Nat.div_le_div_right (Nat.le_add_right _ _)).trans_lt hfits
      rw [htext, readAmounts_cons hshort hsum hname htail]
      exact ih (by simpa using hrounds) hfits

/-! ## Reading durations -/

/-- A text begins with a digit, ends with what is neither a digit nor a blank, and no parenthesis is closed
in it. -/
structure Compact (text : List Char) : Prop where
  first : ∃ c ∈ text.head?, c.isDigit = true
  last : ∃ c ∈ text.getLast?, c.isDigit = false ∧ Text.isBlank c = false
  unclosed : ')' ∉ text

theorem compact_amount (count : Nat) (hname : name ∈ unit.names) :
    Compact (toString count ++ name).toList := by
  obtain ⟨hne, -, hletters⟩ := name_of_unit hname
  obtain ⟨c, digits, hdigits⟩ := List.exists_cons_of_ne_nil (Nat.toDigits_ne_nil (n := count) (b := 10))
  have htext : (toString count ++ name).toList = Nat.toDigits 10 count ++ name.toList := by simp
  rw [htext]
  refine ⟨⟨c, by simp [hdigits], Text.isDigit_of_mem_toDigits (n := count) (by simp [hdigits])⟩,
    ⟨name.toList.getLast hne, ?_, (hletters _ (List.getLast_mem hne)).2⟩, ?_⟩
  · simp [List.getLast?_append, List.getLast?_eq_some_getLast hne]
  · rw [List.mem_append, not_or]
    constructor
    · intro hmem
      exact absurd (Text.isDigit_of_mem_toDigits hmem) (by decide)
    · intro hmem
      exact absurd (hletters _ hmem).1 (by decide)

theorem Compact.join {front rest : List Char} (hfront : Compact front) (hrest : Compact rest) :
    Compact (front ++ ' ' :: rest) := by
  obtain ⟨c, hc, hdigit⟩ := hfront.first
  obtain ⟨letter, hletter, hlast⟩ := hrest.last
  refine ⟨⟨c, by simp [List.head?_append, Option.mem_def.mp hc], hdigit⟩,
    ⟨letter, by simp [List.getLast?_append, List.getLast?_cons, Option.mem_def.mp hletter], hlast⟩, ?_⟩
  simp [hfront.unclosed, hrest.unclosed]

theorem Amounts.compact (h : Amounts texts nanoseconds) (hne : texts ≠ []) :
    Compact (Text.join " " texts).toList := by
  induction h with
  | nil => exact absurd rfl hne
  | @cons texts nanoseconds count unit name hname hshort hrest ih =>
      have hhead := compact_amount count hname
      cases texts with
      | nil => simpa [Text.join] using hhead
      | cons next texts => simpa [Text.join] using hhead.join (ih (List.cons_ne_nil _ _))

theorem toText_compact (d : Duration) : Compact d.toText.toList := by
  obtain ⟨texts, hne, htext, hamounts⟩ := d.exists_amounts
  rw [htext]
  exact hamounts.compact hne

theorem Compact.trim {text : List Char} (h : Compact text) : Text.trim text = text := by
  obtain ⟨c, hc, hdigit⟩ := h.first
  obtain ⟨letter, hletter, -, hblank⟩ := h.last
  apply Text.trim_eq_self
  · intro x hx
    rw [Option.mem_unique hx hc]
    exact Text.isBlank_of_isDigit hdigit
  · intro x hx
    rwa [Option.mem_unique hx hletter]

theorem Amounts.length_le (h : Amounts texts nanoseconds) :
    texts.length ≤ (Text.join " " texts).toList.length := by
  induction h with
  | nil => simp
  | @cons texts nanoseconds count unit name hname _ _ ih =>
      obtain ⟨tail, htext, htail⟩ := join_cons (toString count ++ name) texts
      have hpos : 0 < (toString count ++ name).toList.length := by
        obtain ⟨c, hc, -⟩ := (compact_amount count hname).first
        exact List.length_pos_of_mem (List.mem_of_mem_head? hc)
      have hrest : (Text.join " " texts).toList.length ≤ tail.length := by
        rcases htail with ⟨rfl, hnil⟩ | rfl <;> simp_all
      rw [htext, List.length_append, List.length_cons]
      omega

/-- A duration whose seconds fit 64 bits is read back from its text. -/
theorem parse?_toText (d : Duration) (h : d.seconds < wordLimit) : parse? d.toText = some d := by
  obtain ⟨texts, hne, htext, hamounts⟩ := d.exists_amounts
  obtain ⟨c, hc, hdigit⟩ := d.toText_compact.first
  obtain ⟨rest, hcons⟩ := List.head?_eq_some_iff.mp hc
  have hzero : d.toText.toList ≠ ['0'] := by
    obtain ⟨letter, hletter, hlast, -⟩ := d.toText_compact.last
    intro hzero
    rw [hzero] at hletter
    rw [← Option.some.inj hletter] at hlast
    exact absurd hlast (by decide)
  have hblank : Text.trimLeft d.toText.toList ≠ [] := by
    simp [hcons, Text.trimLeft, Text.isBlank_of_isDigit hdigit]
  have hread : readAmounts (d.toText.toList.length + 1) 0 d.toText.toList = some d.nanoseconds := by
    rw [htext, ← Nat.zero_add d.nanoseconds]
    apply hamounts.read (Nat.lt_succ_of_le hamounts.length_le)
    rwa [Nat.zero_add]
  simp [parse?, hzero, hblank, hread]

end Acceptance.Duration
