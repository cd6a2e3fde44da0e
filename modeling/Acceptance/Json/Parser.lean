import Acceptance.Json
import Acceptance.Power
import Acceptance.Text

/-!
# Reading JSON

A reader of the JSON data format over the characters of a text. Integers that fit 64 bits stay
integers; every other number is computed in the binary64 format. A number that is not finite there and
a text with half of a surrogate pair are improper.
-/

namespace Acceptance.Json

/-- Drops the blanks that may stand between the parts of a value. -/
def skipBlanks (text : List Char) : List Char :=
  text.dropWhile fun c => c == ' ' || c == '\n' || c == '\t' || c == '\r'

/-- The value of a hexadecimal digit. -/
def hexValue? (c : Char) : Option Nat :=
  if c.isDigit then some (c.toNat - '0'.toNat)
  else if 'a' ≤ c ∧ c ≤ 'f' then some (c.toNat - 'a'.toNat + 10)
  else if 'A' ≤ c ∧ c ≤ 'F' then some (c.toNat - 'A'.toNat + 10)
  else none

/-- Reads four hexadecimal digits. -/
def readHex4 : List Char → Option (Nat × List Char)
  | a :: b :: c :: d :: rest => do
    let a ← hexValue? a
    let b ← hexValue? b
    let c ← hexValue? c
    let d ← hexValue? d
    some (((a * 16 + b) * 16 + c) * 16 + d, rest)
  | _ => none

/-- Reads the second half of a surrogate pair. -/
def readLowHalf : List Char → Option (Nat × List Char)
  | '\\' :: 'u' :: rest =>
    (readHex4 rest).filter fun read => 0xDC00 ≤ read.1 && read.1 < 0xE000
  | _ => none

/-- Reads the code of a character behind `\u`: one unit, or two that form a surrogate pair. Half of a
pair stands for no character. -/
def readUnicode (text : List Char) : Option (Option Char × List Char) := do
  let (unit, rest) ← readHex4 text
  if 0xD800 ≤ unit ∧ unit < 0xDC00 then
    match readLowHalf rest with
    | some (low, rest) =>
      some (some (Char.ofNat (0x10000 + (unit - 0xD800) * 0x400 + (low - 0xDC00))), rest)
    | none => some (none, rest)
  else if 0xDC00 ≤ unit ∧ unit < 0xE000 then some (none, rest)
  else some (some (Char.ofNat unit), rest)

/-- The character behind a backslash that stands for one character. -/
def simpleEscape? (c : Char) : Option Char :=
  if c == '"' || c == '\\' || c == '/' then some c
  else if c == 'b' then some (Char.ofNat 8)
  else if c == 'f' then some (Char.ofNat 12)
  else if c == 'n' then some '\n'
  else if c == 'r' then some '\r'
  else if c == 't' then some '\t'
  else none

/-- Reads the rest of a text up to its closing quote, each round taking at least a character. -/
def readText : Nat → List Char → Option (List (Option Char) × List Char)
  | 0, _ => none
  | rounds + 1, text =>
    match text with
    | '"' :: rest => some ([], rest)
    | '\\' :: 'u' :: rest => do
      let (c, rest) ← readUnicode rest
      let (more, rest) ← readText rounds rest
      some (c :: more, rest)
    | '\\' :: c :: rest => do
      let c ← simpleEscape? c
      let (more, rest) ← readText rounds rest
      some (some c :: more, rest)
    | c :: rest =>
      if c.toNat < 0x20 || c == '\\' then none
      else do
        let (more, rest) ← readText rounds rest
        some (some c :: more, rest)
    | [] => none

/-- The text with some characters, all of which have to be there. -/
def textOf? (characters : List (Option Char)) : Option String :=
  (characters.mapM id).map String.ofList

/-- The value that a text with some characters stands for. -/
def ofCharacters (characters : List (Option Char)) : Json :=
  match textOf? characters with
  | some text => string text
  | none => improper

/-- The value that some members stand for, each with the characters of its name. -/
def ofMembers (members : List (List (Option Char) × Json)) : Json :=
  match members.mapM fun member => (textOf? member.1).map (·, member.2) with
  | some members => object members
  | none => improper

/-- The digits of a number: as many as fit 64 bits, and the exponent of ten that they count. Digits
of the integer part that do not fit still count as places, those of the fraction are left out. -/
structure Significand where
  digits : Nat
  exponent : Int

/-- Whether a digit can be appended within 64 bits. -/
def Significand.fits (significand : Significand) (c : Char) : Bool :=
  significand.digits * 10 + Text.digitValue c < twoTo 64

/-- The significand of the digits before the point. -/
def wholeDigits (significand : Significand) : List Char → Significand
  | [] => significand
  | c :: rest =>
    if significand.exponent = 0 ∧ significand.fits c then
      wholeDigits ⟨significand.digits * 10 + Text.digitValue c, 0⟩ rest
    else wholeDigits ⟨significand.digits, significand.exponent + 1⟩ rest

/-- The significand with the digits behind the point, up to the first that does not fit. -/
def fractionDigits (significand : Significand) : List Char → Significand
  | [] => significand
  | c :: rest =>
    if significand.fits c then
      fractionDigits
        ⟨significand.digits * 10 + Text.digitValue c, significand.exponent - 1⟩ rest
    else significand

/-- Reads the digits behind a point, at least one. Without a point there are none. -/
def readFraction : List Char → Option (List Char × List Char)
  | '.' :: rest =>
    let digits := rest.takeWhile Char.isDigit
    if digits.isEmpty then none else some (digits, rest.dropWhile Char.isDigit)
  | rest => some ([], rest)

/-- Reads an exponent, which needs a digit. -/
def readExponent : List Char → Option (Option Int × List Char)
  | c :: rest =>
    if c == 'e' || c == 'E' then
      let (negative, rest) := match rest with
        | '-' :: rest => (true, rest)
        | '+' :: rest => (false, rest)
        | rest => (false, rest)
      let digits := rest.takeWhile Char.isDigit
      if digits.isEmpty then none
      else
        let value := Int.ofNat (Text.digitsFrom 0 digits)
        some (some (if negative then -value else value), rest.dropWhile Char.isDigit)
    else some (none, c :: rest)
  | [] => some (none, [])

/-- The value of a number with the given parts, which is improper if it is not finite. Zero with a
minus sign is no integer. -/
def numberOf (negative : Bool) (whole fraction : List Char) (exponent : Option Int) : Json :=
  let value := Text.digitsFrom 0 whole
  if fraction.isEmpty ∧ exponent.isNone ∧ ¬ negative ∧ value < twoTo 64 then integer value
  else if fraction.isEmpty ∧ exponent.isNone ∧ negative ∧ 0 < value ∧ value ≤ twoTo 63 then
    integer (-Int.ofNat value)
  else
    let significand := fractionDigits (wholeDigits ⟨0, 0⟩ whole) fraction
    match Binary64.scaled? significand.digits (significand.exponent + exponent.getD 0) with
    | some pattern => number (Binary64.ofPattern negative pattern)
    | none => improper

/-- Reads a number. A zero at its start is not followed by another digit. -/
def readNumber (text : List Char) : Option (Json × List Char) := do
  let (negative, text) := match text with
    | '-' :: rest => (true, rest)
    | rest => (false, rest)
  let whole := text.takeWhile Char.isDigit
  let rest := text.dropWhile Char.isDigit
  if whole.isEmpty || (whole.head? == some '0' && whole.length > 1) then none
  else
    let (fraction, rest) ← readFraction rest
    let (exponent, rest) ← readExponent rest
    some (numberOf negative whole fraction exponent, rest)

mutual

/-- Reads a value. Every call takes a character or ends a list, so the rounds allowed by `draft?`
suffice. -/
def readValue : Nat → List Char → Option (Json × List Char)
  | 0, _ => none
  | rounds + 1, text =>
    match skipBlanks text with
    | 'n' :: 'u' :: 'l' :: 'l' :: rest => some (null, rest)
    | 't' :: 'r' :: 'u' :: 'e' :: rest => some (bool true, rest)
    | 'f' :: 'a' :: 'l' :: 's' :: 'e' :: rest => some (bool false, rest)
    | '"' :: rest => do
      let (characters, rest) ← readText (rest.length + 1) rest
      some (ofCharacters characters, rest)
    | '[' :: rest =>
      match skipBlanks rest with
      | ']' :: rest => some (array [], rest)
      | rest => do
        let (items, rest) ← readItems rounds rest
        some (array items, rest)
    | '{' :: rest =>
      match skipBlanks rest with
      | '}' :: rest => some (object [], rest)
      | rest => do
        let (members, rest) ← readMembers rounds rest
        some (ofMembers members, rest)
    | rest => readNumber rest

/-- Reads the items of an array up to its closing bracket. -/
def readItems : Nat → List Char → Option (List Json × List Char)
  | 0, _ => none
  | rounds + 1, text => do
    let (item, rest) ← readValue rounds text
    match skipBlanks rest with
    | ',' :: rest => do
      let (items, rest) ← readItems rounds rest
      some (item :: items, rest)
    | ']' :: rest => some ([item], rest)
    | _ => none

/-- Reads the members of an object up to its closing brace, each with the characters of its name. -/
def readMembers : Nat → List Char → Option (List (List (Option Char) × Json) × List Char)
  | 0, _ => none
  | rounds + 1, text =>
    match skipBlanks text with
    | '"' :: rest => do
      let (name, rest) ← readText (rest.length + 1) rest
      match skipBlanks rest with
      | ':' :: rest => do
        let (value, rest) ← readValue rounds rest
        match skipBlanks rest with
        | ',' :: rest => do
          let (members, rest) ← readMembers rounds rest
          some ((name, value) :: members, rest)
        | '}' :: rest => some ([(name, value)], rest)
        | _ => none
      | _ => none
    | _ => none

end

/-- The value that a whole text in the format stands for, parts of which may be improper. -/
def draft? (text : String) : Option Json :=
  match readValue (2 * text.length + 2) text.toList with
  | some (value, rest) => if (skipBlanks rest).isEmpty then some value else none
  | none => none

/-- The deepest nesting of arrays and objects that is read. -/
def maxDepth : Nat := 127

/-- The value that a whole text stands for, all parts of it. -/
def parse? (text : String) : Option Json := (draft? text).filter fun value => value.isProper maxDepth

end Acceptance.Json
