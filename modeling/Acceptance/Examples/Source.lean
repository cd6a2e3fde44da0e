import Acceptance.Failure
import Acceptance.Feature.Json
import Acceptance.FileTree
import Acceptance.Json.Parser

/-!
# Sources of examples

Where examples come from that are not written in a feature: a table of named examples, or JSON files.
A JSON file holds either headers and rows, or records of which the first one names the columns.
-/

namespace Acceptance

/-- Gives the examples with a name. -/
abbrev ExamplesSource := String → Except ExamplesError Examples

namespace ExamplesSource

/-- A source of given examples. -/
def ofTables (tables : List (String × Examples)) : ExamplesSource := fun name =>
  match tables.lookup name with
  | some examples => .ok examples
  | none => .error (.unknown name)

/-- The text of a JSON value in a cell: a text stands for itself, and null for nothing. -/
def cellOf : Json → String
  | .string text => text
  | .null => ""
  | value => value.compact

/-- Reads an object with headers and rows. -/
def tableOf? : Json → Option Examples
  | .object members => do
    let headers ← Json.strings? (← ← Json.uniqueMember? "headers" members)
    let rows ← Json.list? (Json.list? some) (← ← Json.uniqueMember? "rows" members)
    some { headers, rows := rows.map (·.map cellOf) }
  | _ => none

/-- The members of an object, sorted by name and each name once. -/
def recordOf? : Json → Option (List (String × Json))
  | .object members => some (Json.sortMembers members)
  | _ => none

/-- The cells of a record under some headers, or the first header that it lacks. -/
def cellsOf (headers : List String) (record : List (String × Json)) : Except String (List String) :=
  headers.mapM fun header =>
    match record.lookup header with
    | some value => .ok (cellOf value)
    | none => .error header

/-- The rows of some records under some headers, the records being counted from a number on. -/
def rowsOf (name : String) (headers : List String) (number : Nat) :
    List (List (String × Json)) → Except ExamplesError (List (List String))
  | [] => .ok []
  | record :: rest =>
    match cellsOf headers record with
    | .error header =>
      .error (.shape name ("record " ++ toString number ++ " lacks `" ++ header ++ "`"))
    | .ok cells => do .ok (cells :: (← rowsOf name headers (number + 1) rest))

/-- The examples of some records. The members of the first one give the headers. -/
def ofRecords (name : String) (records : List (List (String × Json))) :
    Except ExamplesError Examples :=
  match records with
  | [] => .ok {}
  | first :: _ =>
    let headers := first.map Prod.fst
    match rowsOf name headers 1 records with
    | .ok rows => .ok { headers, rows }
    | .error error => .error error

/-- The examples of a JSON value in either shape. -/
def ofJson (name : String) (value : Json) : Except ExamplesError Examples :=
  match tableOf? value with
  | some examples => .ok examples
  | none =>
    match Json.list? recordOf? value with
    | some records => ofRecords name records
    | none => .error .malformed

/-- The path of the file for a name: a name without an extension gets `json`. -/
def pathOf (name : String) : String :=
  match (FilePath.ofText name).getLast? with
  | none => name
  | some last =>
    if last = ".." ∨ FilePath.hasExtension last then name else FilePath.trimEnd name ++ ".json"

/-- The path of the file for a name as it is shown: one that is not absolute is shown from the directory
of the source on. -/
def shownPath (name : String) : String :=
  let path := pathOf name
  if FilePath.isAbsolute path then path else FilePath.trimStart (FilePath.trimEnd path)

/-- A source of JSON files. -/
def ofFiles (tree : FileTree) : ExamplesSource := fun name =>
  match (tree.place? (pathOf name)).bind tree.read? with
  | none => .error .unreadable
  | some text =>
    match Json.parse? text with
    | none => .error .malformed
    | some value => ofJson name value

end ExamplesSource

end Acceptance
