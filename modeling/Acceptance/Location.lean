import Acceptance.Text

/-!
# Source locations

Where a step definition was written.
-/

namespace Acceptance

/-- A place in a source file. -/
structure Location where
  path : String
  line : Nat
  column : Nat
deriving DecidableEq, Inhabited

namespace Location

/-- The location as text. -/
def toText (location : Location) : String :=
  location.path ++ ":" ++ toString location.line ++ ":" ++ toString location.column

/-- The part of a path behind its last separator, given the part read so far in reverse. -/
def lastPart (part : List Char) : List Char → List Char
  | [] => part.reverse
  | c :: rest => if c == '/' || c == '\\' then lastPart [] rest else lastPart (c :: part) rest

/-- The name of the file without its directories. -/
def fileName (location : Location) : String := String.ofList (lastPart [] location.path.toList)

end Location

end Acceptance
