import Acceptance.Decimal.Binary64
import Acceptance.Text

/-!
# Decimal notation

The numbers that texts stand for: an optional sign, then digits with or without a point among them
and an optional exponent of ten, or a word for infinity or for no number.
-/

namespace Acceptance.Binary64

/-- The exponent that a text of an optional sign and digits stands for after the letter `e`. Without
the letter there is nothing to read. -/
def exponent? : List Char → Option Int
  | [] => some 0
  | c :: rest => if c = 'e' || c = 'E' then Text.integer? rest else none

/-- The number that digits with or without a point among them and an exponent stand for. -/
def decimal? (negative : Bool) (text : List Char) : Option Binary64 := do
  let whole := text.takeWhile Char.isDigit
  let rest := text.dropWhile Char.isDigit
  let (fraction, rest) := match rest with
    | '.' :: behind => (behind.takeWhile Char.isDigit, behind.dropWhile Char.isDigit)
    | rest => ([], rest)
  if whole.isEmpty && fraction.isEmpty then none
  else
    let exponent ← exponent? rest
    some (.ofDecimal negative (Text.digitsFrom 0 (whole ++ fraction))
      (exponent - Int.ofNat fraction.length))

/-- The number that a text without a sign stands for. Words may be in any case. -/
def unsigned? (negative : Bool) (text : List Char) : Option Binary64 :=
  match String.ofList (text.map Char.toLower) with
  | "inf" => some (.ofPattern negative infinityPattern)
  | "infinity" => some (.ofPattern negative infinityPattern)
  | "nan" => some (.ofPattern negative nanPattern)
  | _ => decimal? negative text

/-- The number that a text stands for. -/
def parse? (text : String) : Option Binary64 :=
  match text.toList with
  | '-' :: rest => unsigned? true rest
  | '+' :: rest => unsigned? false rest
  | rest => unsigned? false rest

end Acceptance.Binary64
