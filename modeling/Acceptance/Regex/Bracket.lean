import Acceptance.Regex.Primitive

/-!
# Classes in brackets

A reader of classes of characters in brackets. A class holds characters, ranges, escapes, named classes
and classes in brackets of their own, and operators that combine what stands on both sides of them.
-/

namespace Acceptance.Regex

/-- The class with a name between `[:` and `:]`. -/
def namedClass? (name : String) : Option CharSet :=
  match name with
  | "alnum" => some asciiAlphanumeric
  | "alpha" => some (asciiLower.union asciiUpper)
  | "ascii" => some Flags.ascii
  | "blank" => some (.ofList ['\t', ' '])
  | "cntrl" => some (.ofRanges [(0, 0x1F), (0x7F, 0x7F)])
  | "digit" => some asciiDigit
  | "graph" => some (.range '!' '~')
  | "lower" => some asciiLower
  | "print" => some (.range ' ' '~')
  | "punct" => some ((CharSet.range '!' '~').diff asciiAlphanumeric)
  | "space" => some asciiBlank
  | "upper" => some asciiUpper
  | "word" => some asciiWord
  | "xdigit" => some (.unions [asciiDigit, .range 'a' 'f', .range 'A' 'F'])
  | _ => none

/-- A class by its name, and whether the characters outside it are meant. Reads what follows `[:`. -/
def readNamedClass (text : List Char) : Option (Bool × CharSet × List Char) := do
  let (negated, text) := match text with
    | '^' :: rest => (true, rest)
    | rest => (false, rest)
  match text.dropWhile (· != ':') with
  | ':' :: ']' :: rest =>
    some (negated, ← namedClass? (String.ofList (text.takeWhile (· != ':'))), rest)
  | _ => none

/-- Reads a character or an escape in a class. -/
def readClassItem (flags : Flags) : List Char → Option (Primitive × List Char)
  | '\\' :: rest => readEscape flags rest
  | c :: rest => some (.literal c, rest)
  | [] => none

/-- The set that an item of a class stands for. A condition stands for none. -/
def Primitive.set? (flags : Flags) : Primitive → Option CharSet
  | literal c => flags.allow? (.single c)
  | charClass set => some set
  | condition _ => none

/-- The first character of a text that is no blank and begins no comment. In a comment the next
character is taken for it. -/
def firstSign? (comment : Bool) : List Char → Option Char
  | [] => none
  | c :: rest =>
    if Text.isBlank c then firstSign? comment rest
    else if c == '#' && !comment then firstSign? true rest
    else some c

/-- The character by which a dash before it is told to make a range or not. -/
def behindDash? (flags : Flags) (text : List Char) : Option Char :=
  if flags.spaced then (firstSign? false text).or text.head? else text.head?

/-- Reads a character, an escape or a range in a class. A dash before the closing bracket or another
dash makes no range. -/
def readRange (flags : Flags) (text : List Char) : Option (CharSet × List Char) := do
  let (first, rest) ← readClassItem flags text
  match flags.skipSpace rest with
  | [] => none
  | '-' :: behind =>
    let next := behindDash? flags behind
    if next = some ']' ∨ next = some '-' then some (← first.set? flags, '-' :: behind)
    else
      let (last, rest) ← readClassItem flags (flags.skipSpace behind)
      match first, last with
      | .literal a, .literal b =>
        if a ≤ b then some (← flags.allow? (.range a b), rest) else none
      | _, _ => none
  | rest => some (← first.set? flags, rest)

/-- An operator between parts of a class at the start of a text. -/
def readClassOperator : List Char → Option ((CharSet → CharSet → CharSet) × List Char)
  | '&' :: '&' :: rest => some (.inter, rest)
  | '-' :: '-' :: rest => some (.diff, rest)
  | '~' :: '~' :: rest => some (.symmetricDifference, rest)
  | _ => none

/-- A set and the depth to which the class that it was read from nests. -/
structure Nested where
  set : CharSet
  depth : Nat

/-- What was read of a class in brackets: whether it is negated, what stands before the last operator
with this operator, and the parts behind it. -/
structure Bracket where
  negated : Bool
  left : Option (Nested × (CharSet → CharSet → CharSet)) := none
  parts : List Nested := []

namespace Bracket

/-- Adds a part. -/
def add (bracket : Bracket) (part : Nested) : Bracket :=
  { bracket with parts := part :: bracket.parts }

/-- The parts behind the last operator as one. -/
def joined (bracket : Bracket) : Nested :=
  let depth := bracket.parts.foldl (fun depth part => max depth part.depth) 0
  ⟨.unions (bracket.parts.map Nested.set), if bracket.parts.length < 2 then depth else depth + 1⟩

/-- All that was read as one. An operator ignores case on both sides where case is ignored. -/
def value (flags : Flags) (bracket : Bracket) : Nested :=
  let right := bracket.joined
  match bracket.left with
  | none => right
  | some (left, operator) =>
    ⟨operator (flags.caseClosed left.set) (flags.caseClosed right.set),
      max left.depth right.depth + 1⟩

/-- Begins what stands behind an operator. -/
def operate (flags : Flags) (bracket : Bracket) (operator : CharSet → CharSet → CharSet) : Bracket :=
  { negated := bracket.negated, left := some (bracket.value flags, operator) }

/-- The class when its bracket is closed. -/
def close? (flags : Flags) (bracket : Bracket) : Option Nested := do
  let value := bracket.value flags
  some ⟨← flags.classOf? bracket.negated value.set, value.depth + 1⟩

/-- Reads how a class begins, behind its bracket: with a sign that negates it, and with dashes or a
closing bracket that stand for themselves. -/
def opening (flags : Flags) (text : List Char) : Bracket × List Char :=
  let text := flags.skipSpace text
  let (negated, text) := match text with
    | '^' :: rest => (true, flags.skipSpace rest)
    | rest => (false, rest)
  let (dashes, rest) := flags.readWhile (· == '-') text
  match dashes, rest with
  | [], ']' :: rest => ({ negated, parts := [⟨.single ']', 0⟩] }, flags.skipSpace rest)
  | dashes, rest => ({ negated, parts := dashes.map fun dash => ⟨.single dash, 0⟩ }, rest)

/-- Reads a class up to its closing bracket, with the classes that it stands in. Every round takes a
character, so as many as the text has characters suffice. -/
def readFrom (flags : Flags) : Nat → List Bracket → Bracket → List Char → Option (Nested × List Char)
  | 0, _, _, _ => none
  | rounds + 1, outer, bracket, text =>
    match flags.skipSpace text with
    | [] => none
    | ']' :: rest => do
      let inner ← bracket.close? flags
      match outer with
      | [] => some (inner, rest)
      | bracket :: outer => readFrom flags rounds outer (bracket.add inner) rest
    | '[' :: rest =>
      let named := match rest with
        | ':' :: name => readNamedClass name
        | _ => none
      match named with
      | some (negated, set, rest) => do
        let set ← flags.classOf? negated set
        readFrom flags rounds outer (bracket.add ⟨set, 0⟩) rest
      | none =>
        let (inner, rest) := opening flags rest
        readFrom flags rounds (bracket :: outer) inner rest
    | text =>
      match readClassOperator text with
      | some (operator, rest) => readFrom flags rounds outer (bracket.operate flags operator) rest
      | none => do
        let (set, rest) ← readRange flags text
        readFrom flags rounds outer (bracket.add ⟨set, 0⟩) rest

/-- Reads a class behind its opening bracket, in at most a number of rounds. -/
def read (flags : Flags) (rounds : Nat) (text : List Char) : Option (Nested × List Char) :=
  let (bracket, rest) := opening flags text
  readFrom flags rounds [] bracket rest

end Bracket

end Acceptance.Regex
