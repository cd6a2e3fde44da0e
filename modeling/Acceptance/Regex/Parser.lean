import Acceptance.Regex.Bracket
import Acceptance.Unicode.Naming

/-!
# Reading regular expressions

A reader of written regular expressions. There is no look-around and no back-reference; classes may
nest and may be combined with `&&`, `--` and `~~`; flags may be set for a group or for what follows
in it. A text that is no expression has no result, nor has one that nests too deep.
-/

namespace Acceptance.Regex

/-- The deepest nesting that is read. -/
def maxNesting : Nat := 250

/-- Whether a character may begin the name of a group. -/
def isNameStart (c : Char) : Bool := c == '_' || Unicode.nameLetter.contains c

/-- Whether a character may stand in the name of a group behind the first one. -/
def isNameChar (c : Char) : Bool :=
  isNameStart c || c == '.' || c == '[' || c == ']' || Unicode.nameNumber.contains c

/-- Whether a text is the name of a group. -/
def isGroupName : List Char → Bool
  | [] => false
  | c :: rest => isNameStart c && rest.all isNameChar

/-- How a group begins: it captures what it matches, it only holds parts together, or it is a setting of
flags and no group. -/
inductive Opening
  | capturing (name : Option (List Char))
  | plain (flags : Flags)
  | setting (flags : Flags)

/-- Reads how a group begins, behind its parenthesis. -/
def readOpening (flags : Flags) (text : List Char) : Option (Opening × List Char) :=
  let named (text : List Char) : Option (Opening × List Char) := do
    let (name, rest) ← Text.splitAt? '>' text
    if isGroupName name then some (.capturing (some name), rest) else none
  match text with
  | '?' :: 'P' :: '<' :: rest => named rest
  | '?' :: '<' :: '=' :: _ => none
  | '?' :: '<' :: '!' :: _ => none
  | '?' :: '<' :: rest => named rest
  | '?' :: rest => do
    let letters := rest.takeWhile fun c => c != ':' && c != ')'
    let inner ← flags.withLetters? true [] letters
    match rest.dropWhile fun c => c != ':' && c != ')' with
    | ')' :: rest => if letters.isEmpty then none else some (.setting inner, rest)
    | ':' :: rest => some (.plain inner, rest)
    | _ => none
  | rest => some (.capturing none, rest)

/-- Reads a number of at most 32 bits with blanks around it. -/
def readCount (flags : Flags) (text : List Char) : Option (Nat × List Char) :=
  let (digits, rest) := flags.readWhile Char.isDigit (Text.trimLeft text)
  let value := Text.digitsFrom 0 digits
  if digits.isEmpty || twoTo 32 ≤ value then none else some (value, Text.trimLeft rest)

/-- Reads the bounds of a counted repetition behind its opening brace. -/
def readBounds (flags : Flags) (text : List Char) : Option ((Nat × Option Nat) × List Char) := do
  let (least, rest) ← readCount flags (flags.skipSpace text)
  match rest with
  | '}' :: rest => some ((least, some least), rest)
  | ',' :: rest =>
    match flags.skipSpace rest with
    | '}' :: rest => some ((least, none), rest)
    | rest =>
      let (most, rest) ← readCount flags rest
      match rest with
      | '}' :: rest => if least ≤ most then some ((least, some most), rest) else none
      | _ => none
  | _ => none

/-- A part of a sequence: its expression, the depth to which it nests as it is written, and whether it
may be repeated, as a setting of flags may not. -/
structure Part where
  tree : Tree
  depth : Nat := 0
  repeatable : Bool := true

/-- What was read of a group: its complete alternatives and the parts of the current one, the latest
first. -/
structure Draft where
  alternatives : List Part := []
  parts : List Part := []

namespace Draft

/-- Adds a part. -/
def add (draft : Draft) (part : Part) : Draft := { draft with parts := part :: draft.parts }

/-- One part made of some, the latest of which comes first. Several parts nest deeper than one. -/
def combine (make : List Tree → Tree) (parts : List Part) : Part :=
  let depth := parts.foldl (fun depth part => max depth part.depth) 0
  { tree := make (parts.reverse.map Part.tree)
    depth := if parts.length < 2 then depth else depth + 1 }

/-- Completes the current alternative. -/
def nextAlternative (draft : Draft) : Draft :=
  { alternatives := combine .sequence draft.parts :: draft.alternatives }

/-- All that was read as one part. -/
def close (draft : Draft) : Part := combine .choice draft.nextAlternative.alternatives

/-- Repeats the last part. -/
def repeatLast? (draft : Draft) (least : Nat) (most : Option Nat) (greedy : Bool) : Option Draft :=
  match draft.parts with
  | part :: earlier =>
    if part.repeatable then
      some
        { draft with
          parts := { tree := .repeated least most greedy part.tree, depth := part.depth + 1 } ::
            earlier }
    else none
  | [] => none

end Draft

/-- A group that is open: what was read around it, the flags that hold behind it, and its number if it
captures. -/
structure Enclosing where
  draft : Draft
  flags : Flags
  number : Option Nat

/-- How far a reader has come: the flags that hold, what was read of the innermost group, the groups
that are open, the number of groups opened and their names. -/
structure Reading where
  flags : Flags := {}
  draft : Draft := {}
  outer : List Enclosing := []
  groups : Nat := 0
  names : List (List Char) := []

namespace Reading

/-- Adds a part. -/
def add (reading : Reading) (part : Part) : Reading :=
  { reading with draft := reading.draft.add part }

/-- Opens a group or sets flags. Names of groups differ. -/
def open? (reading : Reading) : Opening → Option Reading
  | .setting flags =>
    some { reading.add { tree := .empty, repeatable := false } with flags }
  | .plain flags =>
    some
      { reading with
        flags, draft := {}, outer := ⟨reading.draft, reading.flags, none⟩ :: reading.outer }
  | .capturing name =>
    let number := reading.groups + 1
    if name.any reading.names.contains then none
    else
      some
        { reading with
          draft := {}
          outer := ⟨reading.draft, reading.flags, some number⟩ :: reading.outer
          groups := number
          names := name.toList ++ reading.names }

/-- Closes the innermost group. -/
def close? (reading : Reading) : Option Reading :=
  match reading.outer with
  | [] => none
  | enclosing :: outer =>
    let body := reading.draft.close
    let tree := match enclosing.number with
      | some number => .group number body.tree
      | none => body.tree
    some
      { reading with
        flags := enclosing.flags
        draft := enclosing.draft.add { tree, depth := body.depth + 1 }
        outer }

/-- Repeats the last part, greedily unless a question mark follows. -/
def repeat? (reading : Reading) (least : Nat) (most : Option Nat) (text : List Char) :
    Option (Reading × List Char) := do
  let (lazy, rest) := match text with
    | '?' :: rest => (true, rest)
    | rest => (false, rest)
  let draft ← reading.draft.repeatLast? least most (lazy == reading.flags.swapGreed)
  some ({ reading with draft }, rest)

/-- Reads the next part of an expression, or a sign between parts, in at most a number of rounds. -/
def next? (rounds : Nat) (reading : Reading) : List Char → Option (Reading × List Char)
  | [] => none
  | '(' :: rest => do
    let (opening, rest) ← readOpening reading.flags (reading.flags.skipSpace rest)
    some (← reading.open? opening, rest)
  | ')' :: rest => do some (← reading.close?, rest)
  | '|' :: rest => some ({ reading with draft := reading.draft.nextAlternative }, rest)
  | '*' :: rest => reading.repeat? 0 none rest
  | '+' :: rest => reading.repeat? 1 none rest
  | '?' :: rest => reading.repeat? 0 (some 1) rest
  | '{' :: rest => do
    let ((least, most), rest) ← readBounds reading.flags rest
    reading.repeat? least most (reading.flags.skipSpace rest)
  | '[' :: rest => do
    let (found, rest) ← Bracket.read reading.flags rounds rest
    some (reading.add { tree := .ofSet found.set, depth := found.depth }, rest)
  | '.' :: rest => do some (reading.add { tree := .ofSet (← reading.flags.dot?) }, rest)
  | '^' :: rest => some (reading.add { tree := .look reading.flags.startLook }, rest)
  | '$' :: rest => some (reading.add { tree := .look reading.flags.endLook }, rest)
  | '\\' :: rest => do
    let (primitive, rest) ← readEscape reading.flags rest
    some (reading.add { tree := primitive.toTree reading.flags }, rest)
  | c :: rest => some (reading.add { tree := reading.flags.character c }, rest)

/-- Reads the rest of an expression. Every round takes a character, so as many as the text has
characters suffice. -/
def readFrom : Nat → Reading → List Char → Option Reading
  | 0, _, _ => none
  | rounds + 1, reading, text =>
    match reading.flags.skipSpace text with
    | [] => if reading.outer.isEmpty then some reading else none
    | text => do
      let (reading, rest) ← reading.next? rounds text
      readFrom rounds reading rest

end Reading

/-- An expression with the number of its groups. -/
structure Written where
  tree : Tree
  groups : Nat

/-- The expression that a whole text stands for. -/
def parse? (text : String) : Option Written := do
  let reading ← Reading.readFrom (text.length + 1) {} text.toList
  let whole := reading.draft.close
  if whole.depth ≤ maxNesting then some ⟨whole.tree, reading.groups⟩ else none

end Acceptance.Regex
