import Acceptance.Decimal.Notation
import Acceptance.Feature
import Acceptance.Numeral
import Acceptance.Substitution

/-!
# Step arguments

The values that a step handler receives: numbers and texts captured from the text of the step, and
the table and doc string attached to it.
-/

namespace Acceptance

/-- A value passed to a step handler. Integers have at most 64 bits with their sign. -/
inductive Argument
  | int (value : Int)
  | float (value : Binary64)
  | str (text : String)
  | table (cells : Table)
  | docString (text : String)
deriving DecidableEq, Inhabited

/-- What is done to a captured value before it is classified. -/
abbrev Resolver := String → String

namespace Resolver

/-- Replaces references to variables by their values. A reference is a dollar sign and a name in
braces; one to an unknown variable stays. -/
def ofBindings (values : Bindings) : Resolver := Delimiters.dollarBrace.substitute values.get?

end Resolver

namespace Argument

/-- The least integer argument. -/
def minInt : Int := -Int.ofNat (twoTo 63)

/-- The greatest integer argument. -/
def maxInt : Int := Int.ofNat (twoTo 63) - 1

/-- A text without the quotes at both of its ends, if they are two quotes of the given kind. -/
def unquote? (quote : Char) (text : List Char) : Option (List Char) :=
  match text with
  | first :: rest =>
    if first = quote ∧ rest.getLast? = some quote then some rest.dropLast else none
  | [] => none

/-- A text without one pair of equal quotes around it. -/
def stripQuotes (text : List Char) : List Char :=
  match unquote? '"' text with
  | some inner => inner
  | none => (unquote? '\'' text).getD text

/-- The integer that a text of an optional sign and digits from `0` to `9` stands for, if it is an
argument. -/
def integer? (text : List Char) : Option Int := do
  let value ← Text.integer? text
  if minInt ≤ value ∧ value ≤ maxInt then some value else none

/-- The argument that a resolved value stands for. A text that is written as an integer is one if it can
be read as such, and one that is written with a point is a decimal number if it can; what cannot be read
stays as it is, like everything else. -/
def classify (value : String) : Argument :=
  if Numeral.integer.isMatch value.toList then
    match integer? value.toList with
    | some n => int n
    | none => str value
  else if Numeral.decimal.isMatch value.toList then
    match Binary64.parse? value with
    | some x => float x
    | none => str value
  else str value

/-- The argument for a captured value: quotes around it are removed, then it is resolved, then it is
classified. -/
def coerce (resolver : Option Resolver) (raw : String) : Argument :=
  let inner := String.ofList (stripQuotes raw.toList)
  classify (resolver.elim inner fun resolve => resolve inner)

/-- What an argument is, as shown in messages. -/
inductive Kind
  | int | float | string | table | docString
deriving DecidableEq

/-- The name of a kind. -/
def Kind.toText : Kind → String
  | int => "int"
  | float => "float"
  | string => "string"
  | table => "table"
  | docString => "doc string"

/-- The kind of an argument. -/
def kind : Argument → Kind
  | int _ => .int
  | float _ => .float
  | str _ => .string
  | table _ => .table
  | docString _ => .docString

/-- The argument as text. -/
def toText : Argument → String
  | int value => toString value
  | float value => value.toText
  | str text => text
  | table cells => cells.toText
  | docString text => text

/-- The value of an integer. -/
def int? : Argument → Option Int
  | int value => some value
  | _ => none

/-- The value of a number. An integer goes to the nearest decimal number. -/
def float? : Argument → Option Binary64
  | float value => some value
  | int value => some (.ofInt value)
  | _ => none

/-- The text of a text or a doc string. -/
def str? : Argument → Option String
  | str text => some text
  | docString text => some text
  | _ => none

/-- The table of a table. -/
def table? : Argument → Option Table
  | table cells => some cells
  | _ => none

/-- The text of a doc string. -/
def docString? : Argument → Option String
  | docString text => some text
  | _ => none

/-- The arguments for what is attached to a step: its table, then its doc string. -/
def attachments (step : Step) : List Argument :=
  (step.table.map table).toList ++ (step.docString.map docString).toList

end Argument

/-- Why an argument cannot be had. -/
inductive ArgumentError
  | missing (index : Nat)
  | mismatch (index : Nat) (expected found : Argument.Kind)
deriving DecidableEq

/-- The text of an argument error. -/
def ArgumentError.message : ArgumentError → String
  | missing index => "No step argument at index " ++ toString index
  | mismatch index expected found =>
    "Step argument " ++ toString index ++ " is " ++ found.toText ++ ", expected " ++ expected.toText

/-- What a step handler is told about the step that it runs. -/
structure StepContext where
  keyword : String
  text : String
  args : List Argument
  attempt : Nat

namespace StepContext

/-- The argument at a position. -/
def arg (context : StepContext) (index : Nat) : Except ArgumentError Argument :=
  match context.args[index]? with
  | some argument => .ok argument
  | none => .error (.missing index)

/-- The argument at a position as seen by an accessor that accepts one kind of value. -/
def typed {α : Type} (context : StepContext) (index : Nat) (expected : Argument.Kind)
    (access : Argument → Option α) : Except ArgumentError α := do
  let argument ← context.arg index
  match access argument with
  | some value => .ok value
  | none => .error (.mismatch index expected argument.kind)

/-- The integer at a position. -/
def int (context : StepContext) (index : Nat) : Except ArgumentError Int :=
  context.typed index .int Argument.int?

/-- The number at a position. -/
def float (context : StepContext) (index : Nat) : Except ArgumentError Binary64 :=
  context.typed index .float Argument.float?

/-- The text at a position. -/
def str (context : StepContext) (index : Nat) : Except ArgumentError String :=
  context.typed index .string Argument.str?

/-- The first table among the arguments. -/
def table? (context : StepContext) : Option Table := context.args.findSome? Argument.table?

/-- The first doc string among the arguments. -/
def docString? (context : StepContext) : Option String :=
  context.args.findSome? Argument.docString?

end StepContext

end Acceptance
