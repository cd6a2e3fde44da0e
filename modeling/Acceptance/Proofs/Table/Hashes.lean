import Acceptance.Proofs.Bindings
import Acceptance.Table
import Mathlib.Data.List.Forall2

/-!
# Rows under their headers

Below the header of a table each row becomes what its cells are under the names of their columns. A name that
stands above several cells of a row has the last of them. Where all headers are different, every cell that has
a header can be found again, so rows that are as wide as the header are not confused.
-/

namespace Acceptance

/-- The same names are bound, each to the same text. -/
def Bindings.Agree (bindings others : Bindings) : Prop := ∀ name, bindings.get? name = others.get? name

namespace Table

/-- A row has a cell in a column with a name. -/
def HasCell (headers row : List String) (name cell : String) : Prop :=
  ∃ column : Nat, headers[column]? = some name ∧ row[column]? = some cell

/-- A row has a cell in the last column with a name that it reaches. -/
def HasLastCell (headers row : List String) (name cell : String) : Prop :=
  ∃ column : Nat, headers[column]? = some name ∧ row[column]? = some cell ∧
    ∀ later, column < later → later < row.length → headers[later]? ≠ some name

/-- What a row becomes under some headers: each name once, with the last cell that the row has under it, and no
name under which it has none. -/
structure IsHash (headers row : List String) (hash : Bindings) : Prop where
  once : (hash.map Prod.fst).Nodup
  last : ∀ name cell, hash.get? name = some cell ↔ HasLastCell headers row name cell

variable {headers row other : List String} {hash : Bindings} {name cell : String}

theorem hashes_ofParts (headers : List String) (rows : List (List String)) :
    (ofParts headers rows).hashes = rows.map fun row => .ofPairs (headers.zip row) := rfl

/-- The last pair with a name, of the columns that a row reaches, holds its last cell under this name. -/
theorem hasLastCell_iff :
    HasLastCell headers row name cell ↔
      ∃ before after, headers.zip row = before ++ (name, cell) :: after ∧ name ∉ after.map Prod.fst := by
  constructor
  · rintro ⟨column, hname, hcell, hlast⟩
    have hpair : (headers.zip row)[column]? = some (name, cell) :=
      List.getElem?_zip_eq_some.mpr ⟨hname, hcell⟩
    obtain ⟨hlt, heq⟩ := List.getElem?_eq_some_iff.mp hpair
    refine ⟨(headers.zip row).take column, (headers.zip row).drop (column + 1), ?_, ?_⟩
    · rw [← heq, List.getElem_cons_drop, List.take_append_drop]
    · intro hmem
      obtain ⟨pair, hbehind, rfl⟩ := List.mem_map.mp hmem
      obtain ⟨offset, hoffset⟩ := List.mem_iff_getElem?.mp hbehind
      rw [List.getElem?_drop, List.getElem?_zip_eq_some] at hoffset
      have hreach := (List.getElem?_eq_some_iff.mp hoffset.2).1
      exact hlast _ (by omega) hreach hoffset.1
  · rintro ⟨before, after, hsplit, hlast⟩
    have hpair : (headers.zip row)[before.length]? = some (name, cell) := by simp [hsplit]
    obtain ⟨hname, hcell⟩ := List.getElem?_zip_eq_some.mp hpair
    refine ⟨before.length, hname, hcell, fun later hlater hreach hagain => hlast ?_⟩
    -- A later column of this name would be one of those behind the pair.
    have hpair : (headers.zip row)[later]? = some (name, row[later]) :=
      List.getElem?_zip_eq_some.mpr ⟨hagain, List.getElem?_eq_getElem hreach⟩
    rw [hsplit, List.getElem?_append_right (Nat.le_of_lt hlater)] at hpair
    obtain ⟨offset, hoffset⟩ := Nat.exists_eq_add_of_lt hlater
    have hbehind : later - before.length = offset + 1 := by omega
    rw [hbehind, List.getElem?_cons_succ] at hpair
    exact List.mem_map_of_mem (List.mem_of_getElem? hpair)

theorem isHash_ofPairs (headers row : List String) : IsHash headers row (.ofPairs (headers.zip row)) where
  once := Bindings.nodup_ofPairs _
  last := by
    intro name cell
    rw [Bindings.get?_ofPairs_eq_some, hasLastCell_iff]

/-- Among different headers a name has a single column. -/
theorem hasLastCell_iff_of_nodup (hnodup : headers.Nodup) :
    HasLastCell headers row name cell ↔ HasCell headers row name cell := by
  constructor
  · rintro ⟨column, hname, hcell, _⟩
    exact ⟨column, hname, hcell⟩
  · rintro ⟨column, hname, hcell⟩
    refine ⟨column, hname, hcell, fun later hlater _ hagain => Nat.ne_of_lt hlater ?_⟩
    have hlt := (List.getElem?_eq_some_iff.mp hname).1
    exact (List.getElem?_inj hlt hnodup).mp (hname.trans hagain.symm)

/-- Every cell with a header is found under it. -/
theorem IsHash.get?_of_nodup (h : IsHash headers row hash) (hnodup : headers.Nodup) :
    hash.get? name = some cell ↔ HasCell headers row name cell :=
  (h.last name cell).trans (hasLastCell_iff_of_nodup hnodup)

/-- Rows as wide as the header are equal if they become the same under different headers. -/
theorem IsHash.eq_of_agree {hash' : Bindings} (h : IsHash headers row hash) (h' : IsHash headers other hash')
    (hnodup : headers.Nodup) (hrow : row.length = headers.length) (hother : other.length = headers.length)
    (hagree : hash.Agree hash') : row = other := by
  refine List.ext_getElem (hrow.trans hother.symm) fun column hcolumn hcolumn' => ?_
  have hname : headers[column]? = some headers[column] := List.getElem?_eq_getElem (hrow ▸ hcolumn)
  have hcell := (h.get?_of_nodup hnodup).mpr ⟨column, hname, List.getElem?_eq_getElem hcolumn⟩
  have hcell' := (h'.get?_of_nodup hnodup).mpr ⟨column, hname, List.getElem?_eq_getElem hcolumn'⟩
  exact Option.some.inj (hcell.symm.trans ((hagree _).trans hcell'))

theorem forall₂_isHash (headers : List String) (rows : List (List String)) :
    List.Forall₂ (IsHash headers) rows (ofParts headers rows).hashes := by
  rw [hashes_ofParts, List.forall₂_map_right_iff, List.forall₂_same]
  exact fun row _ => isHash_ofPairs headers row

/-- A table made of headers and rows becomes one hash for each row, in order. Each has the last cell of the row
under each name, which is its only cell if all headers are different. Then rows as wide as the header are told
apart by their hashes. -/
theorem hashes_lossless (headers : List String) (rows : List (List String)) :
    List.Forall₂ (IsHash headers) rows (ofParts headers rows).hashes ∧
      (headers.Nodup →
        List.Forall₂ (fun row hash => ∀ name cell, Bindings.get? hash name = some cell ↔
          HasCell headers row name cell) rows (ofParts headers rows).hashes ∧
        ∀ others, (∀ row ∈ rows, row.length = headers.length) →
          (∀ row ∈ others, row.length = headers.length) →
          List.Forall₂ Bindings.Agree (ofParts headers rows).hashes (ofParts headers others).hashes →
          ofParts headers rows = ofParts headers others) := by
  refine ⟨forall₂_isHash headers rows, fun hnodup => ⟨?_, ?_⟩⟩
  · exact (forall₂_isHash headers rows).imp fun _ _ hhash _ _ => hhash.get?_of_nodup hnodup
  · intro others hrows hothers hagree
    rw [hashes_ofParts, hashes_ofParts, List.forall₂_map_left_iff, List.forall₂_map_right_iff,
      List.forall₂_iff_zip] at hagree
    have heq : List.Forall₂ (· = ·) rows others := by
      refine List.forall₂_iff_zip.mpr ⟨hagree.1, fun {row other} hmem => ?_⟩
      obtain ⟨hrow, hother⟩ := List.of_mem_zip hmem
      exact (isHash_ofPairs headers row).eq_of_agree (isHash_ofPairs headers other) hnodup (hrows row hrow)
        (hothers other hother) (hagree.2 hmem)
    rw [List.forall₂_eq_eq_eq] at heq
    rw [heq]

/-- Rows as wide as two headers. -/
def ages : List (List String) := [["Alice", "30"], ["Bob", "25"]]

theorem hashes_lossless_ages :
    ["name", "age"].Nodup ∧ (∀ row ∈ ages, row.length = 2) ∧
      List.Forall₂ (IsHash ["name", "age"]) ages
        [[("name", "Alice"), ("age", "30")], [("name", "Bob"), ("age", "25")]] ∧
      ofParts ["name", "age"] ages = ofParts ["name", "age"] ages ∧
      ¬ List.Forall₂ Bindings.Agree (ofParts ["name", "age"] ages).hashes
        (ofParts ["name", "age"] ages.reverse).hashes := by
  obtain ⟨hhashes, hdifferent⟩ := hashes_lossless ["name", "age"] ages
  have hequal := (hdifferent (by decide)).2
  refine ⟨by decide, by decide, hhashes, ?_, fun hagree => ?_⟩
  · exact hequal ages (by decide) (by decide) (List.forall₂_same.mpr fun _ _ _ => rfl)
  · exact absurd (hequal ages.reverse (by decide) (by decide) hagree) (by decide)

/-- Cells without a header and headers without a cell are left out, and of two columns of one name the last one
counts that the row reaches. -/
example :
    (ofParts ["a", "b", "a"] [["1", "2"], ["1", "2", "3", "4"]]).hashes =
      [[("a", "1"), ("b", "2")], [("a", "3"), ("b", "2")]] := by
  decide

end Table

end Acceptance
