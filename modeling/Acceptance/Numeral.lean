import Acceptance.Regex.Tree

/-!
# Numerals

The two ways to write a number that captured values are told by: as an integer, or with a point. Both are
regular expressions for a whole text, and their digits may be those of any script.
-/

namespace Acceptance

/-- A way to write a number. -/
inductive Numeral
  | integer
  | decimal
deriving DecidableEq, Inhabited

namespace Numeral

/-- The regular expression of what is written so, as it is written itself. -/
def source : Numeral → String
  | integer => "^[+-]?\\d+$"
  | decimal => "^[+-]?\\d*\\.\\d+$"

/-- The parts of the regular expression between the ends of the text. -/
def parts : Numeral → List Regex.Tree
  | integer =>
    [.optional (.oneOf (.ofList ['+', '-'])), .oneOrMore (.oneOf Unicode.decimalNumber)]
  | decimal =>
    [.optional (.oneOf (.ofList ['+', '-'])), .zeroOrMore (.oneOf Unicode.decimalNumber),
      .literal ['.'], .oneOrMore (.oneOf Unicode.decimalNumber)]

/-- The regular expression of what is written so. -/
def tree (numeral : Numeral) : Regex.Tree := .anchored numeral.parts

/-- Whether a text is written so. -/
def isMatch (numeral : Numeral) (text : List Char) : Bool :=
  (numeral.tree.compile.search text).isSome

end Numeral

end Acceptance
