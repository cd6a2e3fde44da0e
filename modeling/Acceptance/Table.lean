import Acceptance.Bindings

/-!
# Data tables

A table attached to a step: rows of text cells, of which the first one is the header. Rows may
differ in length.
-/

namespace Acceptance

/-- Rows of text cells. -/
structure Table where
  raw : List (List String)
deriving DecidableEq, Inhabited

namespace Table

/-- The table with a header and the rows below it. -/
def ofParts (header : List String) (rows : List (List String)) : Table := ⟨header :: rows⟩

/-- The first row. -/
def header? (table : Table) : Option (List String) := table.raw.head?

/-- The rows below the first one. -/
def rows (table : Table) : List (List String) := table.raw.tail

/-- The number of rows, the first one included. -/
def height (table : Table) : Nat := table.raw.length

/-- The number of cells in the first row. -/
def width (table : Table) : Nat := (table.raw.headD []).length

/-- The rows below the header, each as its cells bound to the names of their columns. Cells
beyond the header are left out, and of two columns with one name the last counts. -/
def hashes (table : Table) : List Bindings :=
  match table.raw with
  | [] => []
  | header :: rows => rows.map fun row => Bindings.ofPairs (header.zip row)

/-- A row of two cells as a name and its value. -/
def pair? : List String → Option (String × String)
  | [name, value] => some (name, value)
  | _ => none

/-- The second cells of a table bound to the first ones, if every row has two cells. -/
def rowsHash (table : Table) : Option Bindings := (table.raw.mapM pair?).map Bindings.ofPairs

/-- The cells of a column, from the rows that reach it. -/
def column (table : Table) (index : Nat) : List String := table.raw.filterMap (·[index]?)

/-- The table whose rows are the columns of this one, as many as the first row has cells. -/
def transpose (table : Table) : Table := ⟨(List.range table.width).map table.column⟩

/-- Changes every cell, row by row and from left to right, with an effect. -/
def mapCellsM {m : Type → Type} [Monad m] (f : String → m String) (table : Table) : m Table :=
  Table.mk <$> table.raw.mapM (·.mapM f)

/-- Changes every cell. -/
def mapCells (f : String → String) (table : Table) : Table := ⟨table.raw.map (·.map f)⟩

/-- A row as text: cells between vertical bars. -/
def rowText (row : List String) : String := "| " ++ " | ".intercalate row ++ " |\n"

/-- The table as text, one line for each row. -/
def toText (table : Table) : String := String.join (table.raw.map rowText)

end Table

end Acceptance
