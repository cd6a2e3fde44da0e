import Acceptance.Power

/-!
# Binary64 numbers

Numbers of the 64-bit binary floating-point format, kept as their bit pattern and computed with
exact integer arithmetic. A decimal text denotes the nearest number, a tie going to the even
neighbour; a number is written with the fewest digits that denote it again.
-/

namespace Acceptance

/-- A number of the 64-bit binary floating-point format, by its bits. -/
structure Binary64 where
  bits : UInt64
deriving DecidableEq, Inhabited

namespace Binary64

/-- The pattern of the infinite magnitude: the first one above all finite numbers. -/
def infinityPattern : Nat := 0x7FF * twoTo 52

/-- The number with a sign and a magnitude pattern of 63 bits. -/
def ofPattern (negative : Bool) (pattern : Nat) : Binary64 :=
  ⟨UInt64.ofNat (pattern + if negative then twoTo 63 else 0)⟩

/-- Whether the sign bit is set. -/
def isNegative (x : Binary64) : Bool := twoTo 63 ≤ x.bits.toNat

/-- The bits of the magnitude. -/
def pattern (x : Binary64) : Nat := x.bits.toNat % twoTo 63

/-- Whether the magnitude is infinite. -/
def isInfinite (x : Binary64) : Bool := x.pattern == infinityPattern

/-- Whether the bits stand for no number. -/
def isNaN (x : Binary64) : Bool := infinityPattern < x.pattern

/-- The pattern that stands for no number. -/
def nanPattern : Nat := infinityPattern + twoTo 51

/-- The integer nearest to a quotient; a tie goes to the even neighbour. -/
def roundQuotient (numerator denominator : Nat) : Nat :=
  let below := numerator / denominator
  let twice := 2 * (numerator % denominator)
  if twice < denominator then below
  else if denominator < twice then below + 1
  else below + below % 2

/-- The exponent of the highest power of two that is at most a positive quotient. -/
def floorLog2 (numerator denominator : Nat) : Int :=
  let guess : Int := Int.ofNat numerator.log2 - Int.ofNat denominator.log2
  if denominator * twoTo guess.toNat ≤ numerator * twoTo (-guess).toNat then guess else guess - 1

/-- The magnitude pattern nearest to a quotient. Neighbouring patterns stand for neighbouring
numbers, so that rounding up from the last one of a binade reaches the next binade, and from the
last finite one infinity. -/
def nearestPattern (numerator denominator : Nat) : Nat :=
  if numerator = 0 then 0
  else
    let unit : Int := max (-1074) (floorLog2 numerator denominator - 52)
    let mantissa := roundQuotient (numerator * twoTo (-unit).toNat) (denominator * twoTo unit.toNat)
    min infinityPattern (mantissa + (unit + 1074).toNat * twoTo 52)

/-- The number of decimal digits of a natural number, none for zero. -/
def digitCount (n : Nat) : Nat := if n = 0 then 0 else (Nat.toDigits 10 n).length

/-- The number nearest to `digits * 10 ^ exponent`. Exponents far outside the range of the format
are decided without computing the power. -/
def ofDecimal (negative : Bool) (digits : Nat) (exponent : Int) : Binary64 :=
  let magnitude : Int := exponent + Int.ofNat (digitCount digits)
  ofPattern negative <|
    if digits = 0 ∨ magnitude < -400 then 0
    else if 400 < magnitude then infinityPattern
    else nearestPattern (digits * tenTo exponent.toNat) (tenTo (-exponent).toNat)

/-- The number nearest to an integer. -/
def ofInt (n : Int) : Binary64 := ofPattern (n < 0) (nearestPattern n.natAbs 1)

/-- The mantissa of a finite magnitude pattern, and the exponent of its unit. -/
def decode (pattern : Nat) : Nat × Int :=
  let exponent := pattern / twoTo 52
  let fraction := pattern % twoTo 52
  if exponent = 0 then (fraction, -1074)
  else (twoTo 52 + fraction, Int.ofNat exponent - 1075)

/-- The exponent of the highest power of ten that is at most a positive quotient, searched upward
from an exponent that is not above it. -/
def floorLog10 (numerator denominator : Nat) : Nat → Int → Int
  | 0, exponent => exponent
  | fuel + 1, exponent =>
    let next := exponent + 1
    if denominator * tenTo next.toNat ≤ numerator * tenTo (-next).toNat then
      floorLog10 numerator denominator fuel next
    else exponent

/-- The digits of a decimal number without a zero at the end, with the power of ten they count. -/
def stripZeros : Nat → Nat → Int → Nat × Int
  | 0, digits, exponent => (digits, exponent)
  | fuel + 1, digits, exponent =>
    if digits ≠ 0 ∧ digits % 10 = 0 then stripZeros fuel (digits / 10) (exponent + 1)
    else (digits, exponent)

/-- The reals that round to a positive finite number, in quarters of the unit: the lower end, the
number itself, the upper end, the exponent of the quarter unit, and whether the ends belong to it.
The gap below the first number of a binade is half as wide. -/
structure Interval where
  low : Nat
  value : Nat
  high : Nat
  unit : Int
  closed : Bool

/-- The interval of the reals that round to a positive finite pattern. -/
def intervalOf (pattern : Nat) : Interval :=
  let (mantissa, unit) := decode pattern
  let below := if mantissa = twoTo 52 ∧ -1074 < unit then 1 else 2
  ⟨4 * mantissa - below, 4 * mantissa, 4 * mantissa + 2, unit - 2, mantissa % 2 = 0⟩

/-- Whether `digits * 10 ^ exponent` lies in an interval. -/
def Interval.holds (interval : Interval) (digits : Nat) (exponent : Int) : Bool :=
  let scaled := digits * tenTo exponent.toNat * twoTo (-interval.unit).toNat
  let scale := tenTo (-exponent).toNat * twoTo interval.unit.toNat
  if interval.closed then
    interval.low * scale ≤ scaled && scaled ≤ interval.high * scale
  else interval.low * scale < scaled && scaled < interval.high * scale

/-- The product of a finite magnitude and a power of ten that is itself rounded to the format. -/
def timesPowerOfTen (pattern exponent : Nat) : Nat :=
  let (mantissa, unit) := decode pattern
  let (power, powerUnit) := decode (nearestPattern (tenTo exponent) 1)
  let unit := unit + powerUnit
  nearestPattern (mantissa * power * twoTo unit.toNat) (twoTo (-unit).toNat)

/-- The quotient of a finite magnitude and a power of ten that is itself rounded to the format. -/
def overPowerOfTen (pattern exponent : Nat) : Nat :=
  let (mantissa, unit) := decode pattern
  let (power, powerUnit) := decode (nearestPattern (tenTo exponent) 1)
  let unit := unit - powerUnit
  nearestPattern (mantissa * twoTo unit.toNat) (power * twoTo (-unit).toNat)

/-- The largest exponent of ten in the range of the format. -/
def maxTenExponent : Nat := 308

/-- The magnitude of `digits * 10 ^ exponent` computed in the format itself: the digits are rounded,
then multiplied or divided by a rounded power of ten, then rounded again. The result may differ from
the nearest number in the last place. There is none when it would be infinite. -/
def scaled? (digits : Nat) (exponent : Int) : Option Nat :=
  let significand := nearestPattern digits 1
  if significand = 0 then some 0
  else if Int.ofNat maxTenExponent < exponent then none
  else if 0 ≤ exponent then
    let product := timesPowerOfTen significand exponent.toNat
    if product = infinityPattern then none else some product
  else
    let below := (-exponent).toNat
    let whole := below / maxTenExponent
    if below ≤ maxTenExponent then some (overPowerOfTen significand below)
    else if 3 < whole then some 0
    else
      let reduced := (List.range ((below - 1) / maxTenExponent)).foldl
        (fun pattern _ => overPowerOfTen pattern maxTenExponent) significand
      some (overPowerOfTen reduced (below - (below - 1) / maxTenExponent * maxTenExponent))

/-- The decimal numbers of a grid next to the value of an interval, the nearer one first. -/
def Interval.neighbours (interval : Interval) (exponent : Int) : List Nat :=
  let numerator := interval.value * twoTo interval.unit.toNat * tenTo (-exponent).toNat
  let denominator := twoTo (-interval.unit).toNat * tenTo exponent.toNat
  let below := numerator / denominator
  if 2 * (numerator % denominator) < denominator then [below, below + 1] else [below + 1, below]

/-- The digits and exponent of the first grid that meets an interval, each grid being ten times
finer than the one before. -/
def Interval.shortest (interval : Interval) : Nat → Int → Nat × Int
  | 0, exponent => ((interval.neighbours exponent).headD 0, exponent)
  | finer + 1, exponent =>
    match (interval.neighbours exponent).find? (interval.holds · exponent) with
    | some digits => (digits, exponent)
    | none => interval.shortest finer (exponent - 1)

/-- The fewest decimal digits, and the exponent of ten they count, that denote a finite magnitude
again; of several such numbers the nearest. -/
def shortest (pattern : Nat) : Nat × Int :=
  if pattern = 0 then (0, 0)
  else
    let interval := intervalOf pattern
    let numerator := interval.value * twoTo interval.unit.toNat
    let denominator := twoTo (-interval.unit).toNat
    let start : Int := (floorLog2 numerator denominator * 30103 / 100000) - 2
    let (digits, exponent) :=
      interval.shortest 17 (floorLog10 numerator denominator 8 start)
    stripZeros 20 digits exponent

/-- The digits of a number in positional notation, the point standing `point` digits after the
first digit, or before it when `point` is not positive. -/
def positional (digits : List Char) (point : Int) : List Char :=
  if point ≤ 0 then '0' :: '.' :: (List.replicate (-point).toNat '0' ++ digits)
  else if Int.ofNat digits.length ≤ point then
    digits ++ List.replicate (point.toNat - digits.length) '0'
  else digits.take point.toNat ++ '.' :: digits.drop point.toNat

/-- The text of a finite magnitude in positional notation, without a fraction when it is whole. -/
def magnitudeText (pattern : Nat) : List Char :=
  let (digits, exponent) := shortest pattern
  if digits = 0 then ['0']
  else
    let written := Nat.toDigits 10 digits
    positional written (Int.ofNat written.length + exponent)

/-- The text of a number in positional notation, without a fraction when it is whole. -/
def toText (x : Binary64) : String :=
  if x.isNaN then "NaN"
  else
    let magnitude := if x.isInfinite then ['i', 'n', 'f'] else magnitudeText x.pattern
    String.ofList (if x.isNegative then '-' :: magnitude else magnitude)

/-- The text of a finite number that always shows that it is not an integer: with a fraction when
its exponent is moderate, else in scientific notation. -/
def toScientificText (x : Binary64) : String :=
  let (digits, exponent) := shortest x.pattern
  let written := Nat.toDigits 10 digits
  let point : Int := Int.ofNat written.length + exponent
  let magnitude : List Char :=
    if digits = 0 then ['0', '.', '0']
    else if 0 ≤ exponent ∧ point ≤ 16 then positional written point ++ ['.', '0']
    else if -5 < point ∧ point ≤ 16 then positional written point
    else
      let mantissa := match written with
        | [] => []
        | [digit] => [digit]
        | digit :: rest => digit :: '.' :: rest
      let power := point - 1
      mantissa ++ 'e' :: (if power < 0 then '-' else '+') :: Nat.toDigits 10 power.natAbs
  String.ofList (if x.isNegative then '-' :: magnitude else magnitude)

/-- The sixteen hexadecimal digits of the bits. -/
def toHex (x : Binary64) : String :=
  let digits := Nat.toDigits 16 x.bits.toNat
  String.ofList (List.replicate (16 - digits.length) '0' ++ digits)

end Binary64

end Acceptance
