import Acceptance.Examples.Source
import Acceptance.Proofs.Expansion.Rows
import Acceptance.Proofs.Json

/-!
# Shapes of example files

A file of examples holds either records or headers with rows. Records in which the first one's names are never
lacking are loaded as the table that has these names, in order, as headers and under them the values of each
record. Otherwise the first record that lacks one is named, with the first header that it lacks. A table nests one
level deeper than its records, so it can be too deep to be read where they are not.
-/

namespace Acceptance.ExamplesSource

open Expansion (mapM_eq_error mapM_eq_ok)

/-! ## Records and tables -/

/-- A record has a member for each header. -/
def HasAll (headers : List String) (record : List (String × Json)) : Prop :=
  ∀ header ∈ headers, header ∈ record.map Prod.fst

/-- No record lacks a header. -/
def Complete (headers : List String) (records : List (List (String × Json))) : Prop :=
  ∀ record ∈ records, HasAll headers record

/-- The first of some records that lacks a header, counted from one, and the first header that it lacks. -/
inductive FirstLack (headers : List String) (records : List (List (String × Json))) : Nat → String → Prop
  | intro (before : List (List (String × Json))) {after : List (List (String × Json))}
    {record : List (String × Json)} {known others : List String} {header : String}
    (hrecords : records = before ++ record :: after) (hbefore : Complete headers before)
    (hheaders : headers = known ++ header :: others) (hknown : HasAll known record)
    (hheader : header ∉ record.map Prod.fst) :
    FirstLack headers records (before.length + 1) header

/-- The values of each record under some headers, in their order. -/
def rowsUnder (headers : List String) (records : List (List (String × Json))) : List (List Json) :=
  records.map fun record => headers.filterMap (Json.member? · record)

/-- Records as a file holds them. -/
def recordsJson (records : List (List (String × Json))) : Json := .array (records.map .object)

/-- Headers and rows as a file holds them. -/
def tableJson (headers : List String) (rows : List (List Json)) : Json :=
  .object [("headers", .ofStrings headers), ("rows", .array (rows.map .array))]

/-- The examples with some headers and rows of values. -/
def examplesOf (headers : List String) (rows : List (List Json)) : Examples :=
  { headers, rows := rows.map (·.map cellOf) }

/-- The file of the examples with a name holds a value. It may be too deep to be read, and not all of its parts
need be proper. -/
def Stores (tree : FileTree) (name : String) (value : Json) : Prop :=
  ((tree.place? (pathOf name)).bind tree.read?).bind Json.draft? = some value

instance (tree : FileTree) (name : String) (value : Json) : Decidable (Stores tree name value) :=
  inferInstanceAs (Decidable (_ = _))

instance (headers : List String) (records : List (List (String × Json))) : Decidable (Complete headers records) :=
  inferInstanceAs (Decidable (∀ record ∈ records, ∀ header ∈ headers, header ∈ record.map Prod.fst))

variable {tree : FileTree} {name : String} {headers : List String} {record : List (String × Json)}
  {records : List (List (String × Json))} {value : Json}

/-! ## Cells -/

/-- The cell of a record under a header, or the header if the record lacks it. -/
def cellUnder (record : List (String × Json)) (header : String) : Except String String :=
  match Json.member? header record with
  | some value => .ok (cellOf value)
  | none => .error header

theorem cellsOf_sortMembers (headers : List String) (record : List (String × Json)) :
    cellsOf headers (Json.sortMembers record) = headers.mapM (cellUnder record) := by
  simp only [cellsOf, Json.lookup_sortMembers]
  rfl

theorem exists_cellUnder {header : String} :
    (∃ cell, cellUnder record header = .ok cell) ↔ header ∈ record.map Prod.fst := by
  rw [← not_iff_not, ← Json.member?_eq_none, cellUnder]
  cases Json.member? header record <;> simp

theorem cellUnder_eq_error {header lacking : String} :
    cellUnder record header = .error lacking ↔ header = lacking ∧ header ∉ record.map Prod.fst := by
  rw [← Json.member?_eq_none, cellUnder]
  cases Json.member? header record <;> simp

/-- A record that lacks no header has one value for each. -/
theorem forall₂_member? (h : HasAll headers record) :
    List.Forall₂ (fun header value => Json.member? header record = some value) headers
      (headers.filterMap (Json.member? · record)) := by
  induction headers with
  | nil => exact .nil
  | cons header rest ih =>
      obtain ⟨hheader, hrest⟩ := List.forall_mem_cons.mp h
      cases hvalue : Json.member? header record with
      | none => exact absurd hheader (Json.member?_eq_none.mp hvalue)
      | some value =>
          rw [List.filterMap_cons_some (f := (Json.member? · record)) hvalue]
          exact .cons hvalue (ih hrest)

/-- A record that lacks no header gives its values for them. -/
theorem cellsOf_of_hasAll (h : HasAll headers record) :
    cellsOf headers (Json.sortMembers record) = .ok ((headers.filterMap (Json.member? · record)).map cellOf) := by
  rw [cellsOf_sortMembers, mapM_eq_ok, List.forall₂_map_right_iff]
  exact (forall₂_member? h).imp fun header value hvalue => by rw [cellUnder, hvalue]

/-- A record that gives no cells is told by the first header that it lacks. -/
theorem cellsOf_eq_error {header : String} :
    cellsOf headers (Json.sortMembers record) = .error header ↔
      ∃ known others, headers = known ++ header :: others ∧ HasAll known record ∧
        header ∉ record.map Prod.fst := by
  rw [cellsOf_sortMembers, mapM_eq_error]
  simp only [exists_cellUnder, cellUnder_eq_error]
  constructor
  · rintro ⟨known, _, others, hheaders, hknown, rfl, hheader⟩
    exact ⟨known, others, hheaders, hknown, hheader⟩
  · rintro ⟨known, others, hheaders, hknown, hheader⟩
    exact ⟨known, header, others, hheaders, hknown, rfl, hheader⟩

theorem hasAll_of_cellsOf {cells : List String} (h : cellsOf headers (Json.sortMembers record) = .ok cells) :
    HasAll headers record := by
  rw [cellsOf_sortMembers, mapM_eq_ok] at h
  induction h with
  | nil => nofun
  | cons hcell _ ih => exact List.forall_mem_cons.mpr ⟨exists_cellUnder.mp ⟨_, hcell⟩, ih⟩

/-! ## Rows -/

/-- Where no record lacks a header, every row has a cell for each. -/
theorem length_of_mem_rows (h : Complete headers records) {row : List String}
    (hrow : row ∈ (examplesOf headers (rowsUnder headers records)).rows) : row.length = headers.length := by
  simp only [examplesOf, rowsUnder, List.mem_map, exists_exists_and_eq_and] at hrow
  obtain ⟨record, hrecord, rfl⟩ := hrow
  rw [List.length_map, (forall₂_member? (h record hrecord)).length_eq]

/-- A record that lacks nothing does not change what is lacking behind it. -/
theorem FirstLack.cons {number : Nat} {header : String} (h : FirstLack headers records number header)
    (hrecord : HasAll headers record) : FirstLack headers (record :: records) (number + 1) header := by
  cases h with
  | intro before hrecords hbefore hheaders hknown hheader =>
      subst hrecords
      exact .intro (record :: before) rfl (List.forall_mem_cons.mpr ⟨hrecord, hbefore⟩) hheaders hknown hheader

/-- Where no record lacks a header, each gives a row. -/
theorem rowsOf_of_complete (h : Complete headers records) (name : String) (number : Nat) :
    rowsOf name headers number (records.map Json.sortMembers) =
      .ok ((rowsUnder headers records).map (·.map cellOf)) := by
  induction records generalizing number with
  | nil => rfl
  | cons record rest ih =>
      obtain ⟨hrecord, hrest⟩ := List.forall_mem_cons.mp h
      rw [List.map_cons, rowsOf, cellsOf_of_hasAll hrecord, ih hrest]
      rfl

/-- Otherwise the first lack is told. -/
theorem rowsOf_of_not_complete (h : ¬ Complete headers records) (name : String) (number : Nat) :
    ∃ offset header, FirstLack headers records (offset + 1) header ∧
      rowsOf name headers number (records.map Json.sortMembers) =
        .error (.shape name ("record " ++ toString (number + offset) ++ " lacks `" ++ header ++ "`")) := by
  induction records generalizing number with
  | nil => exact absurd nofun h
  | cons record rest ih =>
      rw [List.map_cons, rowsOf]
      cases hcells : cellsOf headers (Json.sortMembers record) with
      | error header =>
          obtain ⟨known, others, hheaders, hknown, hheader⟩ := cellsOf_eq_error.mp hcells
          exact ⟨0, header, .intro [] rfl nofun hheaders hknown hheader, rfl⟩
      | ok cells =>
          have hrecord := hasAll_of_cellsOf hcells
          have hrest : ¬ Complete headers rest := fun hrest => h (List.forall_mem_cons.mpr ⟨hrecord, hrest⟩)
          obtain ⟨offset, header, hlack, hrows⟩ := ih hrest (number + 1)
          refine ⟨offset + 1, header, hlack.cons hrecord, ?_⟩
          rw [hrows, Nat.add_assoc, Nat.add_comm 1]
          rfl

/-! ## Values in either shape -/

/-- Headers and rows are loaded as they are. -/
theorem ofJson_tableJson (name : String) (headers : List String) (rows : List (List Json)) :
    ofJson name (tableJson headers rows) = .ok (examplesOf headers rows) := by
  have hrow (row : List Json) : Json.list? some (.array row) = some row := by
    simpa using Json.list?_map some id (fun _ => rfl) row
  have htable : tableOf? (tableJson headers rows) = some (examplesOf headers rows) := by
    simp only [tableOf?, tableJson, Json.uniqueMember?, Json.memberValues]
    simp [Json.strings?_ofStrings, Json.list?_map _ _ hrow, examplesOf]
  rw [ofJson, htable]

theorem ofJson_recordsJson (name : String) (records : List (List (String × Json))) :
    ofJson name (recordsJson records) = ofRecords name (records.map Json.sortMembers) := by
  have hrecords : Json.list? recordOf? (recordsJson records) = some (records.map Json.sortMembers) := by
    apply Json.list?_eq_some
    rw [List.forall₂_map_left_iff, List.forall₂_map_right_iff, List.forall₂_same]
    exact fun record _ => rfl
  rw [ofJson, hrecords]
  rfl

variable {first : List (String × Json)}

/-- The names of the first record are the headers. -/
theorem ofRecords_eq (hfirst : records.head? = some first) (name : String) :
    ofRecords name (records.map Json.sortMembers) =
      match rowsOf name (Json.sortedNames first) 1 (records.map Json.sortMembers) with
      | .ok rows => .ok { headers := Json.sortedNames first, rows }
      | .error error => .error error := by
  obtain ⟨rest, rfl⟩ := List.head?_eq_some_iff.mp hfirst
  rw [← Json.map_fst_sortMembers]
  rfl

/-! ## Nesting -/

/-- A table of values of records nests at most one level deeper than the records. -/
theorem isProper_tableJson (depth : Nat) (h : (recordsJson records).isProper (depth + 2) = true)
    (headers : List String) : (tableJson headers (rowsUnder headers records)).isProper (depth + 3) = true := by
  simp only [recordsJson, Json.isProper_array_iff, List.forall_mem_map, Json.isProper_object_iff] at h
  simp only [tableJson, rowsUnder, Json.ofStrings, Json.isProper_object_iff, Json.isProper_array_iff,
    List.forall_mem_cons, List.forall_mem_map, Json.isProper_string, implies_true, true_and, List.not_mem_nil,
    false_imp_iff, and_true]
  intro record hrecord value hvalue
  obtain ⟨header, -, hmember⟩ := List.mem_filterMap.mp hvalue
  exact h record hrecord _ (Json.mem_of_member?_eq_some hmember)

/-! ## Files -/

/-- A file with a value that can be read gives what the value gives. -/
theorem ofFiles_of_stores (h : Stores tree name value) :
    ofFiles tree name = if value.isProper Json.maxDepth then ofJson name value else .error .malformed := by
  obtain ⟨text, htext, hvalue⟩ := Option.bind_eq_some_iff.mp h
  rw [ofFiles, htext]
  dsimp only
  rw [Json.parse?, hvalue, Option.filter_some]
  cases value.isProper Json.maxDepth <;> rfl

/-- What a file holds is told by its characters. -/
theorem stores_of_characters (path : FilePath) {characters : List Char}
    (hplace : tree.place? (pathOf name) = some path)
    (hread : tree.read? path = some (String.ofList characters))
    (hvalue : ((Json.readValue (2 * characters.length + 2) characters).bind fun read =>
      if (Json.skipBlanks read.2).isEmpty then some read.1 else none) = some value) : Stores tree name value := by
  rw [Stores, hplace, Option.bind_some, hread, Option.bind_some, Json.draft?_ofList, hvalue]

/-- Records that can be read and in which the first one's names are never lacking are loaded as a table. -/
theorem ofFiles_of_complete (hstores : Stores tree name (recordsJson records))
    (hproper : (recordsJson records).isProper Json.maxDepth = true) (hfirst : records.head? = some first)
    (hcomplete : Complete (Json.sortedNames first) records) :
    ofFiles tree name =
      .ok (examplesOf (Json.sortedNames first) (rowsUnder (Json.sortedNames first) records)) := by
  rw [ofFiles_of_stores hstores, if_pos hproper, ofJson_recordsJson, ofRecords_eq hfirst,
    rowsOf_of_complete hcomplete]
  rfl

/-- If the names of the first record are lacking in others, the first lack is told. -/
theorem ofFiles_of_not_complete (hstores : Stores tree name (recordsJson records))
    (hproper : (recordsJson records).isProper Json.maxDepth = true) (hfirst : records.head? = some first)
    (hcomplete : ¬ Complete (Json.sortedNames first) records) :
    ∃ number header, FirstLack (Json.sortedNames first) records number header ∧
      ofFiles tree name =
        .error (.shape name ("record " ++ toString number ++ " lacks `" ++ header ++ "`")) := by
  obtain ⟨offset, header, hlack, hrows⟩ := rowsOf_of_not_complete hcomplete name 1
  refine ⟨offset + 1, header, hlack, ?_⟩
  rw [ofFiles_of_stores hstores, if_pos hproper, ofJson_recordsJson, ofRecords_eq hfirst, hrows, Nat.add_comm]

/-- Records are loaded like the table that they stand for, if the first one's names are never lacking, and
otherwise the first lack is told. The table itself is loaded in the same way, unless it is too deep to be read,
which it is by one level at most. -/
structure LoadedAsTable (tree : FileTree) (name : String) (headers : List String)
    (records : List (List (String × Json))) : Prop where
  loaded : Complete headers records →
    ofFiles tree name = .ok (examplesOf headers (rowsUnder headers records))
  fits : Complete headers records →
    ∀ row ∈ (examplesOf headers (rowsUnder headers records)).rows, row.length = headers.length
  table : Complete headers records → ∀ (other : FileTree) (otherName : String),
    Stores other otherName (tableJson headers (rowsUnder headers records)) →
    ofFiles other otherName =
      if (tableJson headers (rowsUnder headers records)).isProper Json.maxDepth then ofFiles tree name
      else .error .malformed
  deeper : (tableJson headers (rowsUnder headers records)).isProper (Json.maxDepth + 1) = true
  lacking : ¬ Complete headers records → ∃ number header, FirstLack headers records number header ∧
    ofFiles tree name =
      .error (.shape name ("record " ++ toString number ++ " lacks `" ++ header ++ "`"))

/-- Records, one at least, are loaded like the table that they stand for. Records that cannot be read are
malformed. -/
theorem loadedAsTable_of_stores (hstores : Stores tree name (recordsJson records))
    (hfirst : records.head? = some first) :
    ((recordsJson records).isProper Json.maxDepth = true →
      LoadedAsTable tree name (Json.sortedNames first) records) ∧
    ((recordsJson records).isProper Json.maxDepth = false → ofFiles tree name = .error .malformed) := by
  refine ⟨fun hproper => ?_, fun hproper => ?_⟩
  · exact {
      loaded := ofFiles_of_complete hstores hproper hfirst
      fits := fun hcomplete _ => length_of_mem_rows hcomplete
      table := by
        intro hcomplete other otherName hother
        rw [ofFiles_of_stores hother, ofJson_tableJson, ofFiles_of_complete hstores hproper hfirst hcomplete]
      deeper := isProper_tableJson 125 hproper _
      lacking := ofFiles_of_not_complete hstores hproper hfirst }
  · rw [ofFiles_of_stores hstores, hproper]
    rfl

/-- A file of two records. -/
def prices : FileTree :=
  ⟨[(["prices.json"], "[\x7b\"b\":1,\"a\":\"x\"\x7d,\x7b\"a\":null,\"c\":[],\"b\":true\x7d]")]⟩

/-- The records of the file. -/
def priceRecords : List (List (String × Json)) :=
  [[("b", .integer 1), ("a", .string "x")], [("a", .null), ("c", .array []), ("b", .bool true)]]

theorem loadedAsTable_of_stores_prices :
    Stores prices "prices" (recordsJson priceRecords) ∧ Complete ["a", "b"] priceRecords ∧
      ofFiles prices "prices" = .ok { headers := ["a", "b"], rows := [["x", "1"], ["", "true"]] } := by
  have hstores : Stores prices "prices" (recordsJson priceRecords) := by decide +kernel
  have hcomplete : Complete ["a", "b"] priceRecords := by decide
  have hnames : Json.sortedNames [("b", Json.integer 1), ("a", .string "x")] = ["a", "b"] := by
    rw [← Json.map_fst_sortMembers]
    decide +kernel
  refine ⟨hstores, hcomplete, ?_⟩
  rw [((loadedAsTable_of_stores hstores rfl).1 (by decide +kernel)).loaded (hnames ▸ hcomplete), hnames]
  refine congrArg Except.ok ?_
  decide +kernel

/-- Arrays within arrays. -/
def nestedArrays : Nat → Json
  | 0 => .array []
  | depth + 1 => .array [nestedArrays depth]

/-- A record with a value of 125 levels. -/
def deepRecord : List (String × Json) := [("k", nestedArrays 124)]

/-- The value as text. -/
def deepText : List Char := List.replicate 125 '[' ++ List.replicate 125 ']'

/-- A file of the record, and one of the table that it stands for. -/
def deepFiles : FileTree :=
  ⟨[(["records.json"], String.ofList ("[\x7b\"k\":".toList ++ deepText ++ "\x7d]".toList)),
    (["table.json"], String.ofList ("\x7b\"headers\":[\"k\"],\"rows\":[[".toList ++ deepText ++ "]]\x7d".toList))]⟩

/-- A record is loaded although the table that it stands for is too deep. -/
theorem deep_table_malformed :
    Stores deepFiles "records" (recordsJson [deepRecord]) ∧ Complete (Json.sortedNames deepRecord) [deepRecord] ∧
      Stores deepFiles "table"
        (tableJson (Json.sortedNames deepRecord) (rowsUnder (Json.sortedNames deepRecord) [deepRecord])) ∧
      ofFiles deepFiles "records" = .ok { headers := ["k"], rows := [[String.ofList deepText]] } ∧
      ofFiles deepFiles "table" = .error .malformed := by
  have hrecords : Stores deepFiles "records" (recordsJson [deepRecord]) :=
    stores_of_characters ["records.json"] (by decide +kernel) rfl (by decide +kernel)
  have htable : Stores deepFiles "table"
      (tableJson (Json.sortedNames deepRecord) (rowsUnder (Json.sortedNames deepRecord) [deepRecord])) :=
    stores_of_characters ["table.json"] (by decide +kernel) rfl (by decide +kernel)
  have hcomplete : Complete (Json.sortedNames deepRecord) [deepRecord] := by decide +kernel
  refine ⟨hrecords, hcomplete, htable, ?_, ?_⟩
  · rw [ofFiles_of_complete hrecords (by decide +kernel) rfl hcomplete]
    refine congrArg Except.ok ?_
    decide +kernel
  · rw [ofFiles_of_stores htable, if_neg (by decide +kernel)]

end Acceptance.ExamplesSource
