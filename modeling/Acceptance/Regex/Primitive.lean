import Acceptance.Power
import Acceptance.Regex.Flags
import Acceptance.Unicode.Property

/-!
# Escapes

The parts of an expression that may stand alone or in a class: characters, and what a backslash makes
of those behind it.
-/

namespace Acceptance.Regex

/-- A part of an expression that may stand alone or in a class. -/
inductive Primitive
  | literal (c : Char)
  | charClass (set : CharSet)
  | condition (edge : Look)

/-- The characters that are escaped to stand for themselves. -/
def isMeta (c : Char) : Bool :=
  ['\\', '.', '+', '*', '?', '(', ')', '|', '[', ']', '{', '}', '^', '$', '#', '&', '-', '~'].contains c

/-- Whether a backslash may stand before a character that means itself. -/
def isEscapable (c : Char) : Bool :=
  c.toNat < 0x80 && !c.isAlphanum && c != '<' && c != '>'

/-- Decimal digits of ASCII. -/
def asciiDigit : CharSet := .range '0' '9'

/-- Lower-case letters of ASCII. -/
def asciiLower : CharSet := .range 'a' 'z'

/-- Upper-case letters of ASCII. -/
def asciiUpper : CharSet := .range 'A' 'Z'

/-- Letters and digits of ASCII. -/
def asciiAlphanumeric : CharSet := .unions [asciiLower, asciiUpper, asciiDigit]

/-- Word characters of ASCII. -/
def asciiWord : CharSet := asciiAlphanumeric.union (.single '_')

/-- Blanks of ASCII. -/
def asciiBlank : CharSet := .ofRanges [(9, 13), (32, 32)]

/-- The class that a letter behind a backslash stands for. Case has no part in it. -/
def letterClass? (flags : Flags) (c : Char) : Option CharSet :=
  let pick (all ascii : CharSet) : CharSet := if flags.unicode then all else ascii
  if c == 'd' then some (pick Unicode.decimalNumber asciiDigit)
  else if c == 'w' then some (pick Unicode.word asciiWord)
  else if c == 's' then some (pick Unicode.whiteSpace asciiBlank)
  else if c == 'D' then flags.allow? (pick Unicode.decimalNumber asciiDigit).compl
  else if c == 'W' then flags.allow? (pick Unicode.word asciiWord).compl
  else if c == 'S' then flags.allow? (pick Unicode.whiteSpace asciiBlank).compl
  else none

/-- The value of a hexadecimal digit. -/
def hexDigit? (c : Char) : Option Nat :=
  if c.isDigit then some (c.toNat - '0'.toNat)
  else if 'a' ≤ c ∧ c ≤ 'f' then some (c.toNat - 'a'.toNat + 10)
  else if 'A' ≤ c ∧ c ≤ 'F' then some (c.toNat - 'A'.toNat + 10)
  else none

/-- The character that hexadecimal digits denote, if they denote one. -/
def hexChar? (digits : List Char) : Option Char := do
  if digits.isEmpty then none
  let value ← digits.foldlM (fun value c => do
    let value := value * 16 + (← hexDigit? c)
    if value < twoTo 32 then some value else none) 0
  if h : value.isValidChar then some (Char.ofNatAux value h) else none

/-- Reads the code of a character behind `\x`, `\u` or `\U`: digits in braces, or a fixed number of
them. Without Unicode two digits are a byte, and only those of ASCII are characters. -/
def readHex (flags : Flags) (count : Nat) (text : List Char) : Option (Char × List Char) :=
  match flags.skipSpace text with
  | '{' :: rest => do
    let (digits, rest) := flags.readWhile (fun c => (hexDigit? c).isSome) rest
    match rest with
    | '}' :: rest => some (← hexChar? digits, flags.skipSpace rest)
    | _ => none
  | text => do
    let (digits, rest) := flags.readRun (fun c => (hexDigit? c).isSome) (some count) false text
    if digits.length < count then none
    let c ← hexChar? digits
    if !flags.unicode && count = 2 && 0x80 ≤ c.toNat then none
    some (c, rest)

/-- The condition with a name in braces behind `\b`. -/
def namedEdge? (words : Words) (name : List Char) : Option Look :=
  match String.ofList name with
  | "start" => some (.wordStart words)
  | "end" => some (.wordEnd words)
  | "start-half" => some (.wordStartHalf words)
  | "end-half" => some (.wordEndHalf words)
  | _ => none

/-- Whether a character may stand in the name of a word edge. -/
def isEdgeNameChar (c : Char) : Bool := c.isAlpha || c == '-'

/-- Reads what follows `\b`: the name of an edge in braces, or nothing. What else is in braces says how
often the edge is repeated. -/
def readEdge (flags : Flags) (text : List Char) : Option (Look × List Char) :=
  match text with
  | '{' :: rest =>
    match flags.skipSpace rest with
    | [] => none
    | c :: rest =>
      if isEdgeNameChar c then
        match flags.readWhile isEdgeNameChar (c :: rest) with
        | (name, '}' :: after) => do some (← namedEdge? flags.words name, after)
        | _ => none
      else some (.wordEdge flags.words true, text)
  | _ => some (.wordEdge flags.words true, text)

/-- The parts of a text before and behind the first place where another text stands in it. -/
def cutAt? (mark : List Char) : List Char → Option (List Char × List Char)
  | [] => none
  | c :: rest =>
    if mark.isPrefixOf (c :: rest) then some ([], (c :: rest).drop mark.length)
    else (cutAt? mark rest).map fun (before, after) => (c :: before, after)

/-- The set that a property, or a value of one, written between braces stands for, and whether it
stands for the characters outside it. -/
def writtenProperty? (text : List Char) : Option (CharSet × Bool) :=
  let ofValue (written : List Char × List Char) : Option CharSet :=
    Unicode.propertyValue? (Unicode.plainName written.1) (Unicode.plainName written.2)
  match cutAt? ['!', '='] text with
  | some written => (ofValue written).map (·, true)
  | none =>
    match (cutAt? [':'] text).or (cutAt? ['='] text) with
    | some written => (ofValue written).map (·, false)
    | none => (Unicode.property? (Unicode.plainName text)).map (·, false)

/-- Reads the property behind `\p` or `\P`: one letter, or a text in braces. Without Unicode there
are no properties. -/
def readProperty (flags : Flags) (negated : Bool) (text : List Char) :
    Option (CharSet × List Char) := do
  let (written, rest) ← match flags.skipSpace text with
    | '{' :: rest =>
      match flags.readWhile (· != '}') rest with
      | (written, '}' :: rest) => some (written, rest)
      | _ => none
    | '\\' :: _ => none
    | c :: rest => some ([c], flags.skipSpace rest)
    | [] => none
  if !flags.unicode then none
  let (set, excluded) ← writtenProperty? written
  some (← flags.classOf? (negated != excluded) set, rest)

/-- Reads what follows a backslash. -/
def readEscape (flags : Flags) : List Char → Option (Primitive × List Char)
  | [] => none
  | c :: rest =>
    let literal (c : Char) : Option (Primitive × List Char) := some (.literal c, rest)
    let condition (edge : Look) : Option (Primitive × List Char) := some (.condition edge, rest)
    if isEscapable c then literal c
    else if c == 'x' then (readHex flags 2 rest).map fun (c, rest) => (.literal c, rest)
    else if c == 'u' then (readHex flags 4 rest).map fun (c, rest) => (.literal c, rest)
    else if c == 'U' then (readHex flags 8 rest).map fun (c, rest) => (.literal c, rest)
    else if c == 'a' then literal (Char.ofNat 7)
    else if c == 'f' then literal (Char.ofNat 12)
    else if c == 't' then literal '\t'
    else if c == 'n' then literal '\n'
    else if c == 'r' then literal '\r'
    else if c == 'v' then literal (Char.ofNat 11)
    else if c == 'A' then condition .textStart
    else if c == 'z' then condition .textEnd
    else if c == 'b' then (readEdge flags rest).map fun (edge, rest) => (.condition edge, rest)
    else if c == 'B' then condition (.wordEdge flags.words false)
    else if c == '<' then condition (.wordStart flags.words)
    else if c == '>' then condition (.wordEnd flags.words)
    else if c == 'p' || c == 'P' then
      (readProperty flags (c == 'P') rest).map fun (set, rest) => (.charClass set, rest)
    else (letterClass? flags c).map fun set => (.charClass set, rest)

/-- The expression that a primitive stands for. -/
def Primitive.toTree (flags : Flags) : Primitive → Tree
  | literal c => flags.character c
  | charClass set => .ofSet set
  | condition edge => .look edge

end Acceptance.Regex
