/-!
# Text

Operations on the characters of a text that the readers of this library share: blanks, trimming,
digits and searching. Texts are taken apart as lists of characters.
-/

namespace Acceptance.Text

/-- Whether a character is white space, in any script. -/
def isBlank (c : Char) : Bool :=
  (9 ≤ c.toNat && c.toNat ≤ 13) || c.toNat == 0x20 || c.toNat == 0x85 || c.toNat == 0xA0 ||
    c.toNat == 0x1680 || (0x2000 ≤ c.toNat && c.toNat ≤ 0x200A) || c.toNat == 0x2028 ||
    c.toNat == 0x2029 || c.toNat == 0x202F || c.toNat == 0x205F || c.toNat == 0x3000

/-- The text without the blanks it begins with. -/
def trimLeft (text : List Char) : List Char := text.dropWhile isBlank

/-- The text without the blanks it ends with. -/
def trimRight (text : List Char) : List Char := (text.reverse.dropWhile isBlank).reverse

/-- The text without the blanks at both ends. -/
def trim (text : List Char) : List Char := trimRight (trimLeft text)

/-- A string without the blanks at both ends. -/
def trimmed (text : String) : String := String.ofList (trim text.toList)

/-- What follows `start` in a text that begins with it. -/
def after? : (start text : List Char) → Option (List Char)
  | [], text => some text
  | _ :: _, [] => none
  | a :: start, c :: text => if a == c then after? start text else none

/-- What follows the start of a text is no longer than the text. -/
theorem length_le_of_after? {start text rest : List Char} (found : after? start text = some rest) :
    rest.length ≤ text.length := by
  induction start generalizing text with
  | nil => simp_all [after?]
  | cons a start ih =>
    cases text with
    | nil => simp [after?] at found
    | cons c text =>
      simp only [after?] at found
      split at found
      · exact Nat.le_succ_of_le (ih found)
      · simp at found

/-- The parts of a text before and after the first occurrence of a character. -/
def splitAt? (separator : Char) : List Char → Option (List Char × List Char)
  | [] => none
  | c :: rest =>
    if c == separator then some ([], rest)
    else (splitAt? separator rest).map fun parts => (c :: parts.1, parts.2)

/-- Whether `part` occurs somewhere in a text. -/
def occursIn (part : List Char) : List Char → Bool
  | [] => part.isEmpty
  | c :: rest => part.isPrefixOf (c :: rest) || occursIn part rest

/-- The value of a digit `0` to `9`. -/
def digitValue (c : Char) : Nat := c.toNat - '0'.toNat

/-- Reads the digits `0` to `9` as a number, `start` being what stands before them. -/
def digitsFrom (start : Nat) (digits : List Char) : Nat :=
  digits.foldl (fun value c => value * 10 + digitValue c) start

/-- The number that a text of digits `0` to `9` stands for, if it has at least one and nothing
else. -/
def natural? (text : List Char) : Option Nat :=
  if !text.isEmpty && text.all Char.isDigit then some (digitsFrom 0 text) else none

/-- The number that a text stands for which may begin with a plus sign. -/
def unsigned? : List Char → Option Nat
  | '+' :: digits => natural? digits
  | digits => natural? digits

/-- The integer that a text of an optional sign and digits stands for. -/
def integer? : List Char → Option Int
  | '-' :: digits => (natural? digits).map fun value => -Int.ofNat value
  | '+' :: digits => (natural? digits).map Int.ofNat
  | digits => (natural? digits).map Int.ofNat

/-- Joins texts with a separator between neighbours. -/
def join (separator : String) : List String → String
  | [] => ""
  | [text] => text
  | text :: rest => text ++ separator ++ join separator rest

end Acceptance.Text
