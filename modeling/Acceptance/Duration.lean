import Acceptance.Power
import Acceptance.Text

/-!
# Durations

Lengths of time in nanoseconds and their two written forms: `toText` writes one in units from years
to nanoseconds, and `parse?` reads a sum of amounts, each a number with a unit.
-/

namespace Acceptance

/-- A length of time. -/
structure Duration where
  nanoseconds : Nat
deriving DecidableEq, Inhabited, Repr

namespace Duration

/-- The length of a number of milliseconds. -/
def ofMilliseconds (milliseconds : Nat) : Duration := ⟨milliseconds * 1000000⟩

/-- The whole seconds of a duration. -/
def seconds (d : Duration) : Nat := d.nanoseconds / 1000000000

/-- The nanoseconds of a duration beyond its whole seconds. -/
def subsecond (d : Duration) : Nat := d.nanoseconds % 1000000000

/-- A unit of time. -/
inductive Unit
  | nanosecond | microsecond | millisecond | second | minute | hour | day | week | month | year
deriving DecidableEq

/-- The nanoseconds in a unit. A year has 365.25 days, and a month is the twelfth part of 365.24
days to the nearest second. -/
def Unit.nanoseconds : Unit → Nat
  | nanosecond => 1
  | microsecond => 1000
  | millisecond => 1000000
  | second => 1000000000
  | minute => 60 * 1000000000
  | hour => 3600 * 1000000000
  | day => 86400 * 1000000000
  | week => 604800 * 1000000000
  | month => 2630016 * 1000000000
  | year => 31557600 * 1000000000

/-- The spellings of a unit. -/
def Unit.names : Unit → List String
  | nanosecond => ["nanos", "nsec", "ns"]
  | microsecond => ["usec", "us", "µs"]
  | millisecond => ["millis", "msec", "ms"]
  | second => ["seconds", "second", "secs", "sec", "s"]
  | minute => ["minutes", "minute", "min", "mins", "m"]
  | hour => ["hours", "hour", "hr", "hrs", "h"]
  | day => ["days", "day", "d"]
  | week => ["weeks", "week", "wk", "wks", "w"]
  | month => ["months", "month", "M"]
  | year => ["years", "year", "yr", "yrs", "y"]

/-- All units. -/
def Unit.all : List Unit :=
  [nanosecond, microsecond, millisecond, second, minute, hour, day, week, month, year]

/-- The unit with a spelling. -/
def Unit.ofName? (name : String) : Option Unit := Unit.all.find? fun unit => unit.names.contains name

/-- The nanoseconds in a second. -/
def nanosecondsPerSecond : Nat := 1000000000

/-- The nanoseconds in what a whole amount of a unit is counted in: nanoseconds for units shorter
than a second, seconds for the others. -/
def Unit.grain (unit : Unit) : Nat :=
  if unit.nanoseconds < nanosecondsPerSecond then 1 else nanosecondsPerSecond

/-- The nanoseconds in what a fraction of a unit has to come out whole in: nanoseconds for units
shorter than an hour, seconds for the others. A nanosecond admits no fraction. -/
def Unit.fractionGrain? : Unit → Option Nat
  | nanosecond => none
  | microsecond | millisecond | second | minute => some 1
  | hour | day | week | month | year => some nanosecondsPerSecond

/-- The first number that does not fit 64 bits. -/
def wordLimit : Nat := twoTo 64

/-- A number, unless it is too large for 64 bits. -/
def checked (n : Nat) : Option Nat := if n < wordLimit then some n else none

/-- Appends a decimal digit to a number of 64 bits. -/
def appendDigit (n : Nat) (c : Char) : Option Nat := checked (n * 10 + Text.digitValue c)

/-- Letters of the names of units. -/
def isUnitLetter (c : Char) : Bool := c.isAlpha || c == 'µ'

/-- A fraction of a unit. -/
structure Fraction where
  numerator : Nat
  denominator : Nat

/-- Reads the digits of a fraction up to the name of a unit, blanks between them being ignored. -/
def readFraction (fraction : Fraction) : List Char → Option (Fraction × List Char)
  | [] => some (fraction, [])
  | c :: rest =>
    if c.isDigit then do
      let denominator ← checked (fraction.denominator * 10)
      let numerator ← appendDigit fraction.numerator c
      readFraction ⟨numerator, denominator⟩ rest
    else if Text.isBlank c then readFraction fraction rest
    else if isUnitLetter c then some (fraction, c :: rest)
    else none

/-- Reads the digits of an amount up to the name of a unit, blanks between them being ignored. A
point begins a fraction, which needs a digit. -/
def readNumber (value : Nat) : List Char → Option (Nat × Option Fraction × List Char)
  | [] => some (value, none, [])
  | c :: rest =>
    if c.isDigit then do readNumber (← appendDigit value c) rest
    else if Text.isBlank c then readNumber value rest
    else if isUnitLetter c then some (value, none, c :: rest)
    else if c == '.' then do
      let (fraction, rest) ← readFraction ⟨0, 1⟩ rest
      if fraction.denominator = 1 then none else some (value, some fraction, rest)
    else none

/-- Adds a count of nanoseconds or seconds to a total, both in 64 bits: the nanoseconds beyond the
seconds of the total have to leave room for the count, and the seconds of the sum have to fit. -/
def add? (grain count total : Nat) : Option Nat :=
  let sum := total + count * grain
  if (grain = 1 → total % nanosecondsPerSecond + count < wordLimit) ∧
      sum / nanosecondsPerSecond < wordLimit then some sum
  else none

/-- Adds an amount to a total. Every intermediate product has to fit 64 bits, and a fraction has to
come out whole. -/
def addAmount? (value : Nat) (fraction : Option Fraction) (unit : Unit) (total : Nat) :
    Option Nat := do
  let total ← add? unit.grain (← checked (value * (unit.nanoseconds / unit.grain))) total
  match fraction with
  | none => some total
  | some part =>
    let grain ← unit.fractionGrain?
    let scaled ← checked (part.numerator * (unit.nanoseconds / grain))
    if scaled % part.denominator = 0 then add? grain (scaled / part.denominator) total else none

/-- Reads amounts until the text ends, adding them to `total`. Each amount takes at least its first
digit, so as many rounds as there are characters suffice. -/
def readAmounts : Nat → Nat → List Char → Option Nat
  | 0, _, _ => none
  | rounds + 1, total, text =>
    match Text.trimLeft text with
    | [] => some total
    | c :: rest =>
      if c.isDigit then do
        let (value, fraction, rest) ← readNumber (Text.digitValue c) rest
        let name := rest.takeWhile isUnitLetter
        let rest := rest.dropWhile isUnitLetter
        let next ← match rest with
          | [] => some []
          | c :: tail =>
            if c.isDigit then some (c :: tail) else if Text.isBlank c then some tail else none
        let unit ← Unit.ofName? (String.ofList name)
        readAmounts rounds (← addAmount? value fraction unit total) next
      else none

/-- Reads a duration: zero as `0`, or one or more amounts such as `1h 30m` or `1.5s`. -/
def parse? (text : String) : Option Duration :=
  let characters := text.toList
  if characters = ['0'] then some ⟨0⟩
  else if (Text.trimLeft characters).isEmpty then none
  else (readAmounts (characters.length + 1) 0 characters).map Duration.mk

/-- An amount in a unit that is written with a plural, left out when there is none of it. -/
def plural (name : String) (count : Nat) : List String :=
  if count = 0 then [] else [toString count ++ name ++ if count > 1 then "s" else ""]

/-- An amount in a unit that is written as a symbol, left out when there is none of it. -/
def symbol (name : String) (count : Nat) : List String :=
  if count = 0 then [] else [toString count ++ name]

/-- The text of a duration in falling units, or `0s`. -/
def toText (d : Duration) : String :=
  if d.nanoseconds = 0 then "0s"
  else
    let days := d.seconds % 31557600
    let hours := days % 2630016 % 86400
    Text.join " " <|
      plural "year" (d.seconds / 31557600) ++
      plural "month" (days / 2630016) ++
      plural "day" (days % 2630016 / 86400) ++
      symbol "h" (hours / 3600) ++
      symbol "m" (hours % 3600 / 60) ++
      symbol "s" (hours % 60) ++
      symbol "ms" (d.subsecond / 1000000) ++
      symbol "us" (d.subsecond / 1000 % 1000) ++
      symbol "ns" (d.subsecond % 1000)

end Duration

end Acceptance
