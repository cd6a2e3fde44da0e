import Acceptance.Tag

/-!
# Tag expressions

Conditions on the tags of a scenario, such as `@smoke and not @slow`. The two binary operators have
one precedence and associate to the right, and a negation reaches to the end of its parentheses.
-/

namespace Acceptance.Tag

/-- A condition on a list of tags. -/
inductive Expression
  | tag (name : String)
  | not (operand : Expression)
  | and (left right : Expression)
  | or (left right : Expression)
deriving DecidableEq, Inhabited

namespace Expression

/-- Whether a list of tags meets a condition. -/
def eval (tags : List String) : Expression → Bool
  | tag name => tags.any fun present => normalize present == normalize name
  | not operand => !operand.eval tags
  | and left right => left.eval tags && right.eval tags
  | or left right => left.eval tags || right.eval tags

/-- Why a text is no condition: it carries the text. -/
structure Invalid where
  expression : String
deriving DecidableEq

/-- Drops the spaces and tabs that may stand around an operator. -/
def skipGap (text : List Char) : List Char := text.dropWhile fun c => c == ' ' || c == '\t'

/-- Whether a character may stand in the name of a tag as it is. -/
def isPlain (c : Char) : Bool :=
  !Text.isBlank c && c != '@' && c != '(' && c != ')' && c != '\\'

/-- Whether a character may stand in the name of a tag behind a backslash. -/
def isEscapable (c : Char) : Bool := c == '\\' || c == '(' || c == ')' || c == ' '

/-- The longest name at the start of a text, its escapes resolved, and the rest. A backslash in front of
another character that does not take one ends the name and is passed over. -/
def readName : List Char → List Char × List Char
  | '\\' :: c :: rest =>
    if isEscapable c then
      let (name, rest) := readName rest
      (c :: name, rest)
    else ([], c :: rest)
  | c :: rest =>
    if isPlain c then
      let (name, rest) := readName rest
      (c :: name, rest)
    else ([], c :: rest)
  | [] => ([], [])

/-- A binary operator at the start of a text, and the rest. -/
def readOperator (text : List Char) :
    Option ((Expression → Expression → Expression) × List Char) :=
  match text with
  | 'a' :: 'n' :: 'd' :: rest => some (and, rest)
  | 'o' :: 'r' :: rest => some (or, rest)
  | _ => none

mutual

/-- Reads a tag, a negation or a condition in parentheses. Each level of nesting takes a character,
so as many levels as the text has characters suffice. -/
def readOperand : Nat → List Char → Option (Expression × List Char)
  | 0, _ => none
  | depth + 1, text =>
    match text with
    | '@' :: rest =>
      let (name, behind) := readName rest
      if behind.length < rest.length then some (tag (String.ofList name), behind) else none
    | '(' :: rest => do
      let (inner, rest) ← readCondition depth rest
      match rest with
      | ')' :: rest => some (inner, skipGap rest)
      | _ => none
    | 'n' :: 'o' :: 't' :: rest => do
      let (operand, rest) ← readCondition depth (skipGap rest)
      some (not operand, rest)
    | _ => none

/-- Reads an operand, and an operator with its right side when both follow. -/
def readCondition : Nat → List Char → Option (Expression × List Char)
  | 0, _ => none
  | depth + 1, text => do
    let (left, rest) ← readOperand depth text
    let longer := do
      let (operator, right) ← readOperator (skipGap rest)
      let (right, rest) ← readCondition depth (skipGap right)
      some (operator left right, rest)
    some (longer.getD (left, rest))

end

/-- Reads a condition that takes up a whole text. -/
def parse (text : String) : Except Invalid Expression :=
  match readCondition (2 * text.length + 2) text.toList with
  | some (condition, []) => .ok condition
  | _ => .error ⟨text⟩

end Expression

end Acceptance.Tag
