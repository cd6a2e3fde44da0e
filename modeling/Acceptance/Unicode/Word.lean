import Acceptance.Unicode.Alphabetic
import Acceptance.Unicode.Category.Mark
import Acceptance.Unicode.Category.Punctuation

/-!
# Word characters

The characters that words are made of: letters, marks, decimal digits, punctuation that joins words,
and joiners.
-/

namespace Acceptance.Unicode

/-- The joiners. -/
def joinControl : CharSet := .ofRanges
  [(0x200C, 0x200D)]

/-- Marks. -/
def mark : CharSet :=
  .unions [nonspacingMark, spacingMark, enclosingMark]

/-- Word characters. -/
def word : CharSet :=
  .unions [alphabetic, mark, decimalNumber, connectorPunctuation, joinControl]

/-- Whether words may hold a character. -/
def isWordChar (c : Char) : Bool :=
  word.contains c

end Acceptance.Unicode
