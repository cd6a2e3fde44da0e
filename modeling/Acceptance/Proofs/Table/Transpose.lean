import Acceptance.Table
import Mathlib.Data.List.Basic

/-!
# Rows and columns

In a table whose rows are all as wide as the first one, every column has a cell in every row. So a column
takes as many cells as there are rows, and each of them stands where its row stands. Exchanging rows and
columns then only exchanges the two places of a cell, and doing it twice gives the table back.
-/

namespace Acceptance.Table

/-- All rows of a table are as wide as its first one. -/
def IsRectangular (table : Table) : Prop := ∀ row ∈ table.raw, row.length = table.width

instance : DecidablePred IsRectangular :=
  fun table => inferInstanceAs (Decidable (∀ row ∈ table.raw, row.length = table.width))

/-- The cell in a row and a column, both counted from zero. -/
def cell? (table : Table) (row column : Nat) : Option String := table.raw[row]?.bind (·[column]?)

variable {table other : Table} {row column : Nat}

/-! ## Cells -/

/-- Tables of equal height are equal if they have the same cells in the same places. -/
theorem eq_of_cell?_eq (hheight : table.height = other.height)
    (hcell : ∀ row column, table.cell? row column = other.cell? row column) : table = other := by
  obtain ⟨rows⟩ := table
  obtain ⟨others⟩ := other
  congr 1
  refine List.ext_getElem hheight fun row hrow hother => List.ext_getElem? fun column => ?_
  simpa [cell?, List.getElem?_eq_getElem hrow, List.getElem?_eq_getElem hother] using hcell row column

theorem cell?_eq_none_of_width_le (hrect : table.IsRectangular) (hcolumn : table.width ≤ column) :
    table.cell? row column = none := by
  rw [cell?, Option.bind_eq_none_iff]
  intro cells hcells
  rw [List.getElem?_eq_none_iff, hrect cells (List.mem_of_getElem? hcells)]
  exact hcolumn

/-! ## Columns -/

/-- No row is left out of a column that all rows reach. -/
theorem map_some_column (hrect : table.IsRectangular) (hcolumn : column < table.width) :
    (table.column column).map some = table.raw.map (·[column]?) := by
  have hreach : ∀ cells ∈ table.raw, ∃ cell, cells[column]? = some cell := by
    intro cells hcells
    have hlt : column < cells.length := hrect cells hcells ▸ hcolumn
    exact ⟨cells[column], List.getElem?_eq_getElem hlt⟩
  rw [Table.column]
  generalize table.raw = rows at hreach
  induction rows with
  | nil => rfl
  | cons cells rest ih =>
      obtain ⟨⟨cell, hcell⟩, hrest⟩ := List.forall_mem_cons.mp hreach
      rw [List.filterMap_cons_some (f := (·[column]?)) hcell, List.map_cons, List.map_cons, ih hrest, hcell]

theorem length_column (hrect : table.IsRectangular) (hcolumn : column < table.width) :
    (table.column column).length = table.height := by
  have hlength := congrArg List.length (map_some_column hrect hcolumn)
  rwa [List.length_map, List.length_map] at hlength

/-- The cells of a column stand where their rows stand. -/
theorem getElem?_column (hrect : table.IsRectangular) (hcolumn : column < table.width) (row : Nat) :
    (table.column column)[row]? = table.cell? row column := by
  have hcell := congrArg (·[row]?) (map_some_column hrect hcolumn)
  simp only [List.getElem?_map] at hcell
  rw [cell?]
  cases hrow : table.raw[row]? with
  | none =>
      rw [hrow, Option.map_none, Option.map_eq_none_iff] at hcell
      exact hcell
  | some cells =>
      rw [hrow, Option.map_some, Option.map_eq_some_iff] at hcell
      obtain ⟨cell, hfound, heq⟩ := hcell
      rw [hfound, heq]
      rfl

/-! ## Transposition -/

@[simp]
theorem height_transpose (table : Table) : table.transpose.height = table.width := by
  simp [transpose, height]

theorem mem_raw_transpose {cells : List String} :
    cells ∈ table.transpose.raw ↔ ∃ column < table.width, table.column column = cells := by
  simp [transpose]

/-- The transposed table is as wide as the table is high, if there is a column. -/
theorem width_transpose (hrect : table.IsRectangular) (hwidth : 0 < table.width) :
    table.transpose.width = table.height := by
  have hfirst : table.transpose.raw.head? = some (table.column 0) := by
    simp [transpose, List.head?_range, Nat.ne_of_gt hwidth]
  rw [Table.width, List.headD_eq_head?_getD, hfirst]
  exact length_column hrect hwidth

theorem isRectangular_transpose (hrect : table.IsRectangular) (hwidth : 0 < table.width) :
    table.transpose.IsRectangular := by
  intro cells hcells
  obtain ⟨column, hcolumn, rfl⟩ := mem_raw_transpose.mp hcells
  rw [width_transpose hrect hwidth, length_column hrect hcolumn]

/-- A cell changes the place of its row for that of its column. -/
theorem cell?_transpose (hrect : table.IsRectangular) (row column : Nat) :
    table.transpose.cell? column row = table.cell? row column := by
  by_cases hcolumn : column < table.width
  · have hcells : table.transpose.raw[column]? = some (table.column column) := by
      simp [transpose, hcolumn]
    rw [cell?, hcells]
    exact getElem?_column hrect hcolumn row
  · have hcells : table.transpose.raw[column]? = none := by
      simpa [transpose] using hcolumn
    rw [cell?, hcells, cell?_eq_none_of_width_le hrect (Nat.not_lt.mp hcolumn)]
    rfl

theorem transpose_transpose (hrect : table.IsRectangular) (hwidth : 0 < table.width) :
    table.transpose.transpose = table := by
  have hrect' := isRectangular_transpose hrect hwidth
  have hheight : table.transpose.transpose.height = table.height := by
    rw [height_transpose, width_transpose hrect hwidth]
  refine eq_of_cell?_eq hheight fun row column => ?_
  rw [cell?_transpose hrect', cell?_transpose hrect]

/-- Rows and columns of a rectangular table with a column, and so with a row, can be exchanged without loss: each
cell changes the place of its row for that of its column, and a second exchange gives the table back. -/
theorem transpose_lossless (table : Table) (hwidth : 0 < table.width) (hrect : table.IsRectangular) :
    table.transpose.height = table.width ∧ table.transpose.width = table.height ∧
      table.transpose.IsRectangular ∧
      (∀ row column, table.transpose.cell? column row = table.cell? row column) ∧
      table.transpose.transpose = table :=
  ⟨height_transpose table, width_transpose hrect hwidth, isRectangular_transpose hrect hwidth,
    cell?_transpose hrect, transpose_transpose hrect hwidth⟩

/-- A table of three rows and two columns. -/
def people : Table := ⟨[["name", "age"], ["Alice", "30"], ["Bob", "25"]]⟩

theorem transpose_lossless_people :
    0 < people.width ∧ people.IsRectangular ∧
      people.transpose = ⟨[["name", "Alice", "Bob"], ["age", "30", "25"]]⟩ ∧
      people.transpose.transpose = people :=
  ⟨by decide, by decide, by decide, (transpose_lossless people (by decide) (by decide)).2.2.2.2⟩

end Acceptance.Table
