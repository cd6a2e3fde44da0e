import Acceptance.Pattern

/-!
# Scanning an expression

The regular expression of an expression can be written in one pass over its text, the placeholders being
noted on the way. Each round looks for the next opening brace and goes on right behind it, or behind the
brace that closes it. Places in a text are counted in bytes, so not every place lies between two characters.
-/

namespace Acceptance.Expression

/-- Where the first character of a kind stands in a text, in bytes. -/
def place? (isSought : Char → Bool) : List Char → Option Nat
  | [] => none
  | c :: rest => if isSought c then some 0 else (place? isSought rest).map fun place => c.utf8Size + place

/-- What stands before a place in a text, and what stands from it on. A text cannot be divided within a
character, nor behind its end. -/
def divide? : Nat → List Char → Option (List Char × List Char)
  | 0, text => some ([], text)
  | _ + 1, [] => none
  | place + 1, c :: rest =>
    if c.utf8Size ≤ place + 1 then
      (divide? (place + 1 - c.utf8Size) rest).map fun parts => (c :: parts.1, parts.2)
    else none

/-- What stands before a place in a text. -/
def before? (place : Nat) (text : List Char) : Option (List Char) := (divide? place text).map Prod.fst

/-- What stands in a text from a place on. -/
def from? (place : Nat) (text : List Char) : Option (List Char) := (divide? place text).map Prod.snd

theorem append_of_divide? {place : Nat} {text before after : List Char}
    (hdivide : divide? place text = some (before, after)) : before ++ after = text := by
  induction text generalizing place before with
  | nil =>
      cases place with
      | zero => cases hdivide; rfl
      | succ place => cases hdivide
  | cons c text ih =>
      cases place with
      | zero => cases hdivide; rfl
      | succ place =>
          rw [divide?] at hdivide
          split at hdivide
          next =>
            obtain ⟨parts, hparts, heq⟩ := Option.map_eq_some_iff.mp hdivide
            cases heq
            exact congrArg (c :: ·) (ih hparts)
          next => cases hdivide

theorem length_le_of_from? {place : Nat} {text rest : List Char} (hfrom : from? place text = some rest) :
    rest.length ≤ text.length := by
  obtain ⟨parts, hparts, rfl⟩ := Option.map_eq_some_iff.mp hfrom
  rw [← append_of_divide? hparts, List.length_append]
  exact Nat.le_add_left _ _

/-- Behind its first byte a text is shorter. -/
theorem length_lt_of_from? {place : Nat} {text rest : List Char}
    (hfrom : from? (place + 1) text = some rest) : rest.length < text.length := by
  cases text with
  | nil => cases hfrom
  | cons c text =>
      rw [from?, divide?] at hfrom
      split at hfrom
      next =>
        obtain ⟨parts, hparts, rfl⟩ := Option.map_eq_some_iff.mp hfrom
        obtain ⟨others, hothers, rfl⟩ := Option.map_eq_some_iff.mp hparts
        exact Nat.lt_succ_of_le (length_le_of_from? (Option.map_eq_some_iff.mpr ⟨others, hothers, rfl⟩))
      next => cases hfrom

/-- The place of the brace that closes the one in front of a text, if the first brace of the text does. There
is no answer if the text cannot be divided at its first brace. -/
def closing? (text : List Char) : Option (Option Nat) :=
  match place? (fun c => !isNoBrace c) text with
  | none => some none
  | some place => (from? place text).map fun rest => if rest.head? = some '}' then some place else none

/-- What is written of a regular expression, and the placeholders that have been met. -/
structure Scan where
  written : List Char
  placeholders : List Placeholder
deriving DecidableEq

namespace Scan

/-- Writes literal text. -/
def literal (scan : Scan) (text : List Char) : Scan :=
  { scan with written := scan.written ++ text.flatMap escape }

/-- Writes the placeholder that a text between braces names. -/
def placeholder (scan : Scan) (name : List Char) : Scan :=
  { written := scan.written ++ (placeholderOf name).source.toList
    placeholders := scan.placeholders ++ [placeholderOf name] }

/-- A round at the next opening brace of a text, and what is left of the text behind it. -/
def round? (scan : Scan) (opening : Nat) (text : List Char) : Option (Scan × List Char) := do
  let after ← from? (opening + 1) text
  match ← closing? after with
  | none =>
    let front ← before? (opening + 1) text
    some (scan.literal front, after)
  | some closing =>
    let front ← before? opening text
    let name ← before? closing after
    let rest ← from? (closing + 1) after
    some ((scan.literal front).placeholder name, rest)

theorem length_lt_of_round? {scan next : Scan} {opening : Nat} {text left : List Char}
    (hround : scan.round? opening text = some (next, left)) : left.length < text.length := by
  obtain ⟨after, hafter, hround⟩ := Option.bind_eq_some_iff.mp hround
  have hshorter := length_lt_of_from? hafter
  obtain ⟨closing, -, hround⟩ := Option.bind_eq_some_iff.mp hround
  cases closing with
  | none =>
      obtain ⟨front, -, heq⟩ := Option.bind_eq_some_iff.mp hround
      cases heq
      exact hshorter
  | some closing =>
      obtain ⟨front, -, hround⟩ := Option.bind_eq_some_iff.mp hround
      obtain ⟨name, -, hround⟩ := Option.bind_eq_some_iff.mp hround
      obtain ⟨rest, hrest, heq⟩ := Option.bind_eq_some_iff.mp hround
      cases heq
      exact Nat.lt_trans (length_lt_of_from? hrest) hshorter

/-- The rounds over a text, one for each opening brace that is met. Text without an opening brace is
literal. There is no result if the text would have to be divided where it cannot be. -/
def rounds? (scan : Scan) (text : List Char) : Option Scan :=
  match place? (· == '{') text with
  | none => some (scan.literal text)
  | some opening =>
    match _hround : scan.round? opening text with
    | none => none
    | some (next, left) => next.rounds? left
termination_by text.length
decreasing_by exact length_lt_of_round? _hround

end Scan

/-- Writes the anchored regular expression of an expression in one pass, with the placeholders. -/
def scan? (expression : String) : Option (String × List Placeholder) :=
  (Scan.rounds? ⟨['^'], []⟩ expression.toList).map fun scan =>
    (String.ofList (scan.written ++ ['$']), scan.placeholders)

end Acceptance.Expression
