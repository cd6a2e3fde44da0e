import Acceptance.Text

/-!
# Indentation

Texts taken apart into lines, and the removal of the indentation that the lines of a text share.
-/

namespace Acceptance.Text

/-- The lines of a text without their line ends, given the line read so far in reverse. A line end is
a newline with an optional carriage return before it. -/
def linesFrom (line : List Char) : List Char → List (List Char)
  | [] => if line.isEmpty then [] else [line.reverse]
  | '\n' :: rest => (if line.head? = some '\r' then line.tail else line).reverse :: linesFrom [] rest
  | c :: rest => linesFrom (c :: line) rest

/-- The lines of a text without their line ends. -/
def lines (text : List Char) : List (List Char) := linesFrom [] text

/-- What two texts begin with, and whether they differ after that. -/
def agreement : List Char → List Char → List Char × Bool
  | c :: left, d :: right =>
    if c = d then
      let (shared, differ) := agreement left right
      (c :: shared, differ)
    else ([], true)
  | _, _ => ([], false)

/-- A margin as far as a line does not contradict it. A line that ends within the margin does not. -/
def narrow (margin line : List Char) : List Char :=
  let (shared, differ) := agreement line margin
  if differ then shared else margin

/-- The indentation that lines share: that of the first line with text, narrowed by those after
it. -/
def margin : List (List Char) → List Char
  | [] => []
  | line :: rest =>
    if line.all isBlank then margin rest else rest.foldl narrow (line.takeWhile isBlank)

/-- A line without the margin, or nothing of a line of blanks. -/
def removeMargin (margin line : List Char) : List Char :=
  if line.all isBlank then [] else (after? margin line).getD []

/-- Joins lines, each with a newline behind it. -/
def unlines (lines : List (List Char)) : List Char := lines.flatMap (· ++ ['\n'])

/-- A text without the indentation that its lines share. Lines of blanks become empty, and there is
a newline at the end where there was one. -/
def dedent (text : List Char) : List Char :=
  let rows := lines text
  let result := unlines (rows.map (removeMargin (margin rows)))
  if text.getLast? = some '\n' then result else result.dropLast

end Acceptance.Text
