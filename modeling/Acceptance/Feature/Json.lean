import Acceptance.Feature
import Acceptance.Json.Parser

/-!
# Features as JSON

Every part of a feature is an object whose members may be left out, in which case they have their
default. Unknown members are ignored, improper as they may be, and a known one may occur only once. An
array stands for an object too, its items being the members in their order.
-/

namespace Acceptance

namespace Json

/-- The values of a member, in order. -/
def memberValues (name : String) (members : List (String × Json)) : List Json :=
  members.filterMap fun member => if member.1 = name then some member.2 else none

/-- The value of a member that occurs at most once. -/
def uniqueMember? (name : String) (members : List (String × Json)) : Option (Option Json) :=
  match memberValues name members with
  | [] => some none
  | [value] => some (some value)
  | _ => none

/-- The values that an object or an array gives to named fields, in the order of the names. -/
def fieldValues? (names : List String) : Json → Option (List (Option Json))
  | object members => names.mapM fun name => uniqueMember? name members
  | array items =>
    if items.length ≤ names.length then
      some (items.map some ++ List.replicate (names.length - items.length) none)
    else none
  | _ => none

/-- The text of a string. -/
def string? : Json → Option String
  | string text => some text
  | _ => none

/-- The items of an array, each one read. -/
def list? {α : Type} (read : Json → Option α) : Json → Option (List α)
  | array items => items.mapM read
  | _ => none

/-- A value that may be null. -/
def nullable? {α : Type} (read : Json → Option α) : Json → Option (Option α)
  | null => some none
  | value => (read value).map some

/-- A field that has a default when it is left out. -/
def field? {α : Type} (read : Json → Option α) (default : α) : Option Json → Option α
  | none => some default
  | some value => read value

/-- A list of texts. -/
def ofStrings (texts : List String) : Json := array (texts.map string)

/-- A list of rows of texts. -/
def ofRows (rows : List (List String)) : Json := array (rows.map ofStrings)

/-- A value that may be missing. -/
def ofOption {α : Type} (write : α → Json) : Option α → Json
  | none => null
  | some value => write value

/-- Reads a list of texts. -/
def strings? : Json → Option (List String) := list? string?

/-- Reads a list of rows of texts. -/
def rows? : Json → Option (List (List String)) := list? strings?

end Json

namespace Step

/-- The names of the members of a step. -/
def memberNames : List String := ["keyword", "text", "table", "docstring"]

/-- A step as JSON. -/
def toJson (step : Step) : Json :=
  .object
    [("keyword", .string step.keyword), ("text", .string step.text),
      ("table", .ofOption (fun table => .ofRows table.raw) step.table),
      ("docstring", .ofOption .string step.docString)]

/-- Reads a step. -/
def ofJson? (value : Json) : Option Step := do
  match ← Json.fieldValues? memberNames value with
  | [keyword, text, table, docString] =>
    some
      { keyword := ← Json.field? Json.string? "" keyword
        text := ← Json.field? Json.string? "" text
        table := ← Json.field? (Json.nullable? fun rows => (Json.rows? rows).map Table.mk) none table
        docString := ← Json.field? (Json.nullable? Json.string?) none docString }
  | _ => none

end Step

namespace Background

/-- The names of the members of a background. -/
def memberNames : List String := ["name", "steps"]

/-- A background as JSON. -/
def toJson (background : Background) : Json :=
  .object [("name", .string background.name), ("steps", .array (background.steps.map Step.toJson))]

/-- Reads a background. -/
def ofJson? (value : Json) : Option Background := do
  match ← Json.fieldValues? memberNames value with
  | [name, steps] =>
    some
      { name := ← Json.field? Json.string? "" name
        steps := ← Json.field? (Json.list? Step.ofJson?) [] steps }
  | _ => none

end Background

namespace Examples

/-- The names of the members of a block of examples. -/
def memberNames : List String := ["headers", "rows", "tags", "external"]

/-- A block of examples as JSON. -/
def toJson (examples : Examples) : Json :=
  .object
    [("headers", .ofStrings examples.headers), ("rows", .ofRows examples.rows),
      ("tags", .ofStrings examples.tags), ("external", .ofOption .string examples.external)]

/-- Reads a block of examples. -/
def ofJson? (value : Json) : Option Examples := do
  match ← Json.fieldValues? memberNames value with
  | [headers, rows, tags, external] =>
    some
      { headers := ← Json.field? Json.strings? [] headers
        rows := ← Json.field? Json.rows? [] rows
        tags := ← Json.field? Json.strings? [] tags
        external := ← Json.field? (Json.nullable? Json.string?) none external }
  | _ => none

end Examples

namespace Scenario

/-- The names of the members of a scenario. -/
def memberNames : List String := ["name", "tags", "steps", "background", "examples"]

/-- A scenario as JSON. -/
def toJson (scenario : Scenario) : Json :=
  .object
    [("name", .string scenario.name), ("tags", .ofStrings scenario.tags),
      ("steps", .array (scenario.steps.map Step.toJson)),
      ("background", .ofOption Background.toJson scenario.background),
      ("examples", .array (scenario.examples.map Examples.toJson))]

/-- Reads a scenario. -/
def ofJson? (value : Json) : Option Scenario := do
  match ← Json.fieldValues? memberNames value with
  | [name, tags, steps, background, examples] =>
    some
      { name := ← Json.field? Json.string? "" name
        tags := ← Json.field? Json.strings? [] tags
        steps := ← Json.field? (Json.list? Step.ofJson?) [] steps
        background := ← Json.field? (Json.nullable? Background.ofJson?) none background
        examples := ← Json.field? (Json.list? Examples.ofJson?) [] examples }
  | _ => none

end Scenario

namespace Feature

/-- The names of the members of a feature. -/
def memberNames : List String := ["name", "tags", "background", "scenarios", "path"]

/-- A feature as JSON. -/
def toJson (feature : Feature) : Json :=
  .object
    [("name", .string feature.name), ("tags", .ofStrings feature.tags),
      ("background", .ofOption Background.toJson feature.background),
      ("scenarios", .array (feature.scenarios.map Scenario.toJson)),
      ("path", .ofOption .string feature.path)]

/-- Reads a feature. -/
def ofJson? (value : Json) : Option Feature := do
  match ← Json.fieldValues? memberNames value with
  | [name, tags, background, scenarios, path] =>
    some
      { name := ← Json.field? Json.string? "" name
        tags := ← Json.field? Json.strings? [] tags
        background := ← Json.field? (Json.nullable? Background.ofJson?) none background
        scenarios := ← Json.field? (Json.list? Scenario.ofJson?) [] scenarios
        path := ← Json.field? (Json.nullable? Json.string?) none path }
  | _ => none

/-- Reads a feature from a text in JSON. -/
def ofJsonText? (text : String) : Option Feature := (Json.draft? text).bind ofJson?

end Feature

end Acceptance
