import Acceptance.Regex.Tree
import Acceptance.Text

/-!
# Path patterns

Patterns for paths: a question mark stands for one byte of a name and a star for any number of them,
two stars between slashes for any number of directories, brackets for one of several bytes, and braces
for one of several alternatives. A pattern of a single name matches it in any directory. Paths are
matched by the bytes of their text.
-/

namespace Acceptance

/-- A part of a path pattern. -/
inductive Glob.Part
  | character (c : Char)
  | anyCharacter
  | anyName
  | anyStart
  | anyMiddle
  | anyEnd
  | oneOf (negated : Bool) (ranges : List (Char × Char))
  | choice (alternatives : List (List Part))

namespace Glob

/-- The parts read so far, the latest first, and for every brace that is open the parts before it and
the alternatives that are complete. -/
structure Reading where
  outer : List (List Part × List (List Part)) := []
  current : List Part := []

namespace Reading

/-- Adds a part. -/
def push (reading : Reading) (part : Part) : Reading :=
  { reading with current := part :: reading.current }

/-- Adds two stars that stand for no directories. -/
def pushStars (reading : Reading) : Reading := (reading.push .anyName).push .anyName

/-- Adds two stars that stand for directories, in place of the slash before them. Next to others that
do, they add nothing. -/
def pushDirectories (reading : Reading) (part : Part) : Reading :=
  match reading.current with
  | .anyStart :: _ => reading
  | .anyEnd :: _ => reading
  | _ :: rest => { reading with current := part :: rest }
  | [] => reading

/-- Opens a brace. -/
def openBrace (reading : Reading) : Reading :=
  { outer := (reading.current, []) :: reading.outer }

/-- Begins the next alternative in a brace. -/
def nextAlternative (reading : Reading) : Reading :=
  match reading.outer with
  | (before, alternatives) :: outer =>
    { outer := (before, alternatives ++ [reading.current.reverse]) :: outer }
  | [] => reading.push (.character ',')

/-- Closes a brace, if one is open. -/
def closeBrace? (reading : Reading) : Option Reading :=
  match reading.outer with
  | (before, alternatives) :: outer =>
    some { outer, current := .choice (alternatives ++ [reading.current.reverse]) :: before }
  | [] => none

/-- Whether two stars may stand for directories behind a character. -/
def mayFollow (reading : Reading) (before : Option Char) : Bool :=
  before = some '/' || (!reading.outer.isEmpty && (before = some ',' || before = some '{'))

/-- Adds two stars, given the characters before and after them. Gives what is left to read. -/
def doubleStar (reading : Reading) (before : Option Char) (rest : List Char) :
    Reading × List Char :=
  if reading.current.isEmpty then
    match rest with
    | [] => (reading.push .anyStart, [])
    | '/' :: rest => (reading.push .anyStart, rest)
    | rest => (reading.pushStars, rest)
  else if reading.mayFollow before then
    match rest with
    | [] => (reading.pushDirectories .anyEnd, [])
    | '/' :: rest => (reading.pushDirectories .anyMiddle, rest)
    | c :: rest =>
      if !reading.outer.isEmpty && (c = ',' || c = '}') then
        (reading.pushDirectories .anyEnd, c :: rest)
      else (reading.pushStars, c :: rest)
  else (reading.pushStars, rest)

end Reading

/-- Extends the last range up to a character, unless that lies before its start. -/
def extendRange (ranges : List (Char × Char)) (last : Char) : Option (List (Char × Char)) :=
  match ranges with
  | (first, _) :: earlier => if first ≤ last then some ((first, last) :: earlier) else none
  | [] => none

/-- Reads characters in brackets, given the ranges read so far, the latest first, and whether a dash
is waiting for the end of its range. -/
def readSet (ranges : List (Char × Char)) (dash : Bool) :
    List Char → Option (List (Char × Char) × List Char)
  | [] => none
  | c :: rest =>
    if c = ']' && !ranges.isEmpty then
      some (if dash then ('-', '-') :: ranges else ranges, rest)
    else if dash then do readSet (← extendRange ranges c) false rest
    else if c = '-' && !ranges.isEmpty then readSet ranges true rest
    else readSet ((c, c) :: ranges) false rest

/-- Reads the next part of a pattern, given the character before it. -/
def readPart? (reading : Reading) (before : Option Char) :
    List Char → Option (Reading × List Char)
  | [] => none
  | '?' :: rest => some (reading.push .anyCharacter, rest)
  | '*' :: '*' :: rest => some (reading.doubleStar before rest)
  | '*' :: rest => some (reading.push .anyName, rest)
  | '[' :: rest => do
    let negated := rest.head?.any fun c => c = '!' || c = '^'
    let (ranges, rest) ← readSet [] false (if negated then rest.tail else rest)
    some (reading.push (.oneOf negated ranges), rest)
  | '{' :: rest => some (reading.openBrace, rest)
  | '}' :: rest => reading.closeBrace?.map (·, rest)
  | ',' :: rest => some (reading.nextAlternative, rest)
  | ['\\'] => none
  | '\\' :: c :: rest => some (reading.push (.character c), rest)
  | c :: rest => some (reading.push (.character c), rest)

/-- The last character that was read when some of a text is left. -/
def lastRead (text rest : List Char) : Option Char :=
  (text.take (text.length - rest.length)).getLast?

/-- Reads the parts of a pattern. Every brace has to be closed. -/
def readParts? (reading : Reading) (before : Option Char) (text : List Char) :
    Option (List Part) :=
  if text.isEmpty then
    if reading.outer.isEmpty then some reading.current.reverse else none
  else
    match readPart? reading before text with
    | none => none
    | some (reading, rest) =>
      if _shorter : rest.length < text.length then
        readParts? reading (lastRead text rest) rest
      else none
termination_by text.length

/-- The bytes of a text in UTF-8, each as the character with its number. -/
def byteChars (text : String) : List Char := text.toUTF8.toList.map fun byte => Char.ofNat byte.toNat

/-- The bytes of names. -/
def nameCharacter : Regex.Tree := .oneOf (CharSet.single '/').compl

/-- Any text, with or without slashes. -/
def anything : Regex.Tree := .zeroOrMore (.oneOf .all)

/-- A slash. -/
def slash : Regex.Tree := .literal ['/']

/-- The bytes that a range of characters in brackets stands for. A dash joins only the bytes next to it:
the last one of the first character and the first one of the last character. -/
def rangeBytes (range : Char × Char) : CharSet :=
  let first := byteChars (String.singleton range.1)
  let last := byteChars (String.singleton range.2)
  match first.getLast?, last with
  | some lower, upper :: rest =>
    if range.1 = range.2 then .ofList first
    else .union (.range lower upper) (.ofList (first.dropLast ++ rest))
  | _, _ => .empty

/-- The bytes of some ranges. -/
def rangeSet (ranges : List (Char × Char)) : CharSet :=
  .unions (ranges.map rangeBytes)

/-- The alternative of some expressions. -/
def alternatives : List Regex.Tree → Regex.Tree
  | [] => .empty
  | [tree] => tree
  | tree :: rest => .alt tree (alternatives rest)

mutual

/-- What a part matches. -/
def Part.tree : Part → Regex.Tree
  | .character c => .literal (byteChars (String.singleton c))
  | .anyCharacter => nameCharacter
  | .anyName => .zeroOrMore nameCharacter
  | .anyStart => .alt (.optional slash) (.seq anything slash)
  | .anyMiddle => .alt slash (.seq slash (.seq anything slash))
  | .anyEnd => .seq slash anything
  | .oneOf negated ranges =>
    let set := rangeSet ranges
    .oneOf (if negated then set.compl else set)
  | .choice branches => alternatives (branchTrees branches)

/-- What some parts match one after another. -/
def partsTree : List Part → Regex.Tree
  | [] => .empty
  | part :: rest => .seq part.tree (partsTree rest)

/-- What alternatives match. Empty ones are left out. -/
def branchTrees : List (List Part) → List Regex.Tree
  | [] => []
  | [] :: rest => branchTrees rest
  | (part :: parts) :: rest => .seq part.tree (partsTree parts) :: branchTrees rest

end

/-- The pattern of a whole path for a pattern that may be a single name. Two stars at its end match
what is inside of a directory, but not the directory itself. -/
def wholePath (pattern : List Char) : List Char :=
  let anchored :=
    if pattern.contains '/' || pattern = ['*', '*'] then pattern else '*' :: '*' :: '/' :: pattern
  if "/**".toList.isSuffixOf anchored then anchored ++ ['/', '*'] else anchored

end Glob

/-- A path pattern that is ready to be matched. -/
structure Glob where
  regex : Regex

namespace Glob

/-- The pattern that no path matches. -/
def never : Glob := ⟨.one 0 .empty⟩

/-- What the parts of a whole pattern match: two stars alone match all there is. -/
def wholeTree : List Part → Regex.Tree
  | [.anyStart] => anything
  | parts => partsTree parts

/-- Compiles the pattern of a whole path, if its brackets and braces are well formed. -/
def ofWholePath? (pattern : List Char) : Option Glob :=
  (readParts? {} none pattern).map fun parts =>
    ⟨Regex.Tree.compile
      (.seq (.look .textStart) (.seq (wholeTree parts) (.look .textEnd)))⟩

/-- A pattern without the blanks at its end, unless a space there is escaped. -/
def trimPattern (pattern : String) : List Char :=
  if pattern.endsWith "\\ " then pattern.toList else Text.trimRight pattern.toList

/-- Compiles a pattern, if its brackets and braces are well formed. One that begins with a number sign
or an exclamation mark says what not to select, and so selects nothing. -/
def compile? (pattern : String) : Option Glob :=
  match trimPattern pattern with
  | [] => some never
  | '#' :: _ => some never
  | '!' :: rest => (ofWholePath? (wholePath rest)).map fun _ => never
  | pattern => ofWholePath? (wholePath pattern)

/-- Whether a pattern matches a whole path. -/
def isMatch (glob : Glob) (path : String) : Bool := (glob.regex.search (byteChars path)).isSome

end Glob

end Acceptance
