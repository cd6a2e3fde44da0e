import Acceptance.Regex.Tree
import Acceptance.Text
import Acceptance.Unicode.CaseFold

/-!
# Flags of expressions

The flags that the meaning of a regular expression depends on, and what they say of its parts: what
they let stand between them, what case they are matched in, and what the short signs stand for.
-/

namespace Acceptance.Regex

/-- The flags that the meaning of an expression depends on. -/
structure Flags where
  ignoreCase : Bool := false
  multiLine : Bool := false
  dotAll : Bool := false
  swapGreed : Bool := false
  unicode : Bool := true
  crLf : Bool := false
  spaced : Bool := false

namespace Flags

/-- The flags after one letter. -/
def set? (flags : Flags) (value : Bool) (c : Char) : Option Flags :=
  if c == 'i' then some { flags with ignoreCase := value }
  else if c == 'm' then some { flags with multiLine := value }
  else if c == 's' then some { flags with dotAll := value }
  else if c == 'U' then some { flags with swapGreed := value }
  else if c == 'u' then some { flags with unicode := value }
  else if c == 'R' then some { flags with crLf := value }
  else if c == 'x' then some { flags with spaced := value }
  else none

/-- Applies the letters between `(?` and its end. One dash separates the flags that are set from
those that are cleared, and no letter occurs twice. -/
def withLetters? (value : Bool) (seen : List Char) (flags : Flags) : List Char → Option Flags
  | [] => some flags
  | '-' :: rest => if value && !rest.isEmpty then withLetters? false seen flags rest else none
  | c :: rest =>
    if seen.contains c then none
    else do withLetters? value (c :: seen) (← flags.set? value c) rest

/-- Reads characters of one kind, at most as many as a limit allows if there is one, and what is behind
them. Blanks and comments that a spaced expression may hold do not count. `comment` tells whether the
text begins in a comment. -/
def readRun (flags : Flags) (kind : Char → Bool) (limit : Option Nat) (comment : Bool) :
    List Char → List Char × List Char
  | [] => ([], [])
  | c :: rest =>
    if comment then readRun flags kind limit (c != '\n') rest
    else if flags.spaced && Text.isBlank c then readRun flags kind limit false rest
    else if flags.spaced && c == '#' then readRun flags kind limit true rest
    else if limit != some 0 && kind c then
      let (run, after) := readRun flags kind (limit.map (· - 1)) false rest
      (c :: run, after)
    else ([], c :: rest)

/-- Reads all characters of one kind that a text begins with. -/
def readWhile (flags : Flags) (kind : Char → Bool) (text : List Char) : List Char × List Char :=
  flags.readRun kind none false text

/-- Drops the blanks and comments that spaced expressions may hold. -/
def skipSpace (flags : Flags) (text : List Char) : List Char :=
  (flags.readRun (fun _ => false) none false text).2

/-- The characters that may stand in a class without Unicode. -/
def ascii : CharSet := .range (Char.ofNat 0) (Char.ofNat 0x7F)

/-- A set with the case variants of its members when case is ignored. Without Unicode only ASCII has
case. -/
def caseClosed (flags : Flags) (set : CharSet) : CharSet :=
  if flags.ignoreCase then
    if flags.unicode then set.caseClosure else set.union (set.caseClosure.inter ascii)
  else set

/-- The expression for one character as it is written. -/
def character (flags : Flags) (c : Char) : Tree :=
  if flags.ignoreCase && (flags.unicode || c.toNat < 0x80) then
    .ofSet (flags.caseClosed (.single c))
  else .literal [c]

/-- A set that may be asked for: without Unicode it has ASCII characters only. -/
def allow? (flags : Flags) (set : CharSet) : Option CharSet :=
  if flags.unicode || set.isAscii then some set else none

/-- The set or, if it is negated, the characters outside it, where case may be ignored. -/
def classOf? (flags : Flags) (negated : Bool) (set : CharSet) : Option CharSet :=
  let set := flags.caseClosed set
  flags.allow? (if negated then set.compl else set)

/-- What a dot matches. Without Unicode that would be bytes, which are no characters. -/
def dot? (flags : Flags) : Option CharSet :=
  if !flags.unicode then none
  else if flags.dotAll then some .all
  else if flags.crLf then some (CharSet.ofList ['\n', '\r']).compl
  else some (CharSet.single '\n').compl

/-- The condition that `^` stands for. -/
def startLook (flags : Flags) : Look :=
  if flags.multiLine then if flags.crLf then .lineStartCrLf else .lineStart else .textStart

/-- The condition that `$` stands for. -/
def endLook (flags : Flags) : Look :=
  if flags.multiLine then if flags.crLf then .lineEndCrLf else .lineEnd else .textEnd

/-- The characters that make up words. -/
def words (flags : Flags) : Words := if flags.unicode then .all else .ascii

end Flags

end Acceptance.Regex
