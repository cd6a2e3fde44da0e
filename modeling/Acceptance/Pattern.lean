import Acceptance.Regex.Parser
import Acceptance.Regex.Size

/-!
# Step patterns

What the text of a step has to look like for a definition to apply. An expression is literal text
with typed placeholders in braces, and matches a whole text; a raw regular expression matches
anywhere in it. A matcher is the compiled form of a pattern, and gives the values that a text has for
the placeholders or groups.
-/

namespace Acceptance

/-- A typed part of an expression. -/
inductive Placeholder
  | string
  | int
  | float
  | word
  | anything
deriving DecidableEq, Inhabited

namespace Placeholder

/-- The placeholder with a name. Every unknown name stands for anything. -/
def ofName (name : List Char) : Placeholder :=
  match String.ofList name with
  | "string" => string
  | "int" => int
  | "float" => float
  | "word" => word
  | _ => anything

/-- How the placeholder is written. -/
def toText : Placeholder → String
  | string => "\x7bstring\x7d"
  | int => "\x7bint\x7d"
  | float => "\x7bfloat\x7d"
  | word => "\x7bword\x7d"
  | anything => "\x7b\x7d"

/-- The regular expression of the placeholder, as it is written. -/
def source : Placeholder → String
  | string => "(?:\"([^\"]*)\"|'([^']*)')"
  | int => "(\\d+)"
  | float => "([+-]?\\d*\\.?\\d+)"
  | word => "(\\w+)"
  | anything => "(.*?)"

/-- The number of groups in the regular expression. -/
def groups : Placeholder → Nat
  | string => 2
  | _ => 1

/-- A text between two quotes of one kind that does not hold this quote. -/
def quoted (quote : Char) (group : Nat) : Regex.Tree :=
  .chain
    [.literal [quote], .group group (.zeroOrMore (.oneOf (CharSet.single quote).compl)),
      .literal [quote]]

/-- The regular expression of the placeholder, its groups numbered from a given one on. -/
def tree (group : Nat) : Placeholder → Regex.Tree
  | string => .alt (quoted '"' group) (quoted '\'' (group + 1))
  | int => .group group (.oneOrMore (.oneOf Unicode.decimalNumber))
  | float =>
    .group group <| .chain
      [.optional (.oneOf (.ofList ['+', '-'])), .zeroOrMore (.oneOf Unicode.decimalNumber),
        .optional (.literal ['.']), .oneOrMore (.oneOf Unicode.decimalNumber)]
  | word => .group group (.oneOrMore (.oneOf Unicode.word))
  | anything => .group group (.repetition 0 none false (.oneOf (CharSet.single '\n').compl))

end Placeholder

namespace Expression

/-- A part of an expression: a character that stands for itself, or the text between the braces of a
placeholder. -/
inductive Piece
  | literal (c : Char)
  | placeholder (name : List Char)
deriving DecidableEq

/-- The part of an expression as it is written. -/
def Piece.text : Piece → List Char
  | literal c => [c]
  | placeholder name => '{' :: (name ++ ['}'])

/-- Whether a character is no brace. -/
def isNoBrace (c : Char) : Bool := c != '{' && c != '}'

/-- Cuts an expression into its parts. An opening brace begins a placeholder when the next brace
closes it, and stands for itself otherwise. -/
def pieces : List Char → List Piece
  | [] => []
  | c :: rest =>
    if c = '{' then
      match _next : rest.dropWhile isNoBrace with
      | '}' :: after => .placeholder (rest.takeWhile isNoBrace) :: pieces after
      | _ => .literal c :: pieces rest
    else .literal c :: pieces rest
termination_by text => text.length
decreasing_by
  · have hsuffix := (List.dropWhile_suffix isNoBrace (l := rest)).length_le
    rw [_next] at hsuffix
    simp only [List.length_cons] at hsuffix ⊢
    omega
  · simp
  · simp

/-- The placeholder that a text between braces names, blanks around it being ignored. -/
def placeholderOf (name : List Char) : Placeholder := .ofName (Text.trim name)

/-- The placeholders among some parts, in order. -/
def placeholders (parts : List Piece) : List Placeholder :=
  parts.filterMap fun part =>
    match part with
    | .literal _ => none
    | .placeholder name => some (placeholderOf name)

/-- A character as a regular expression that matches only it. -/
def escape (c : Char) : List Char := if Regex.isMeta c then ['\\', c] else [c]

/-- The regular expression of a part, as it is written. -/
def Piece.source : Piece → List Char
  | literal c => escape c
  | placeholder name => (placeholderOf name).source.toList

/-- The anchored regular expression of some parts, as it is written. -/
def source (parts : List Piece) : String :=
  String.ofList ('^' :: (parts.flatMap Piece.source ++ ['$']))

/-- The regular expressions of some parts, their groups numbered from a given one on. -/
def treesFrom (group : Nat) : List Piece → List Regex.Tree
  | [] => []
  | .literal c :: rest => .literal [c] :: treesFrom group rest
  | .placeholder name :: rest =>
    (placeholderOf name).tree group :: treesFrom (group + (placeholderOf name).groups) rest

/-- The anchored regular expression of some parts. -/
def tree (parts : List Piece) : Regex.Tree := .anchored (treesFrom 1 parts)

end Expression

/-- What the text of a step has to look like. -/
inductive Pattern
  | expression (source : String)
  | regex (source : String)
deriving DecidableEq, Inhabited

namespace Pattern

/-- The text that the pattern was made from. -/
def source : Pattern → String
  | expression source => source
  | regex source => source

/-- The pattern as it is shown: a raw regular expression stands between slashes. -/
def toText : Pattern → String
  | expression source => source
  | regex source => "/" ++ source ++ "/"

/-- Why a pattern cannot be used: its regular expression is none, or is too large. -/
structure Invalid where
  pattern : Pattern
deriving DecidableEq

end Pattern

/-- The compiled form of a pattern. An expression keeps its placeholders; a raw regular expression
has none. -/
structure Matcher where
  pattern : Pattern
  source : String
  regex : Regex
  groups : Nat
  placeholders : Option (List Placeholder)

namespace Matcher

/-- What a pattern stands for before it is compiled: its regular expression as it is written and as a
tree, with its groups, and its placeholders if it is no regular expression itself. -/
structure Form where
  source : String
  tree : Regex.Tree
  groups : Nat
  placeholders : Option (List Placeholder)

/-- The form of a pattern. A text may be no regular expression. -/
def form? : Pattern → Option Form
  | .expression text =>
    let parts := Expression.pieces text.toList
    let placeholders := Expression.placeholders parts
    some
      { source := Expression.source parts
        tree := Expression.tree parts
        groups := placeholders.foldl (fun count placeholder => count + placeholder.groups) 0
        placeholders := some placeholders }
  | .regex text =>
    (Regex.parse? text).map fun written =>
      { source := text, tree := written.tree, groups := written.groups, placeholders := none }

/-- Compiles a pattern whose automata stay within a limit, if there is one. -/
def compileWithin (limit : Option Nat) (pattern : Pattern) : Except Pattern.Invalid Matcher :=
  match form? pattern with
  | some form =>
    if form.tree.fits limit then
      .ok
        { pattern
          source := form.source
          regex := form.tree.compile
          groups := form.groups
          placeholders := form.placeholders }
    else .error ⟨pattern⟩
  | none => .error ⟨pattern⟩

/-- Compiles a pattern. -/
def compile (pattern : Pattern) : Except Pattern.Invalid Matcher :=
  compileWithin (some Regex.Tree.maxSize) pattern

/-- The value of each placeholder: the text of the first of its groups that took part in the match,
groups being counted from a given one on. -/
def placeholderValues (group : Nat → Option (List Char)) (first : Nat) :
    List Placeholder → List (List Char)
  | [] => []
  | placeholder :: rest =>
    ((List.range placeholder.groups).findSome? fun offset => group (first + offset)).getD [] ::
      placeholderValues group (first + placeholder.groups) rest

/-- The values that a text has under a pattern, if it matches: one for each placeholder of an
expression, and one for each group of a regular expression that took part in the match. -/
def captures (compiled : Matcher) (text : String) : Option (List String) := do
  let characters := text.toList
  let marks ← compiled.regex.search characters
  let group := Regex.group characters marks
  let values := match compiled.placeholders with
    | some placeholders => placeholderValues group 1 placeholders
    | none => (List.range compiled.groups).filterMap fun number => group (number + 1)
  some (values.map String.ofList)

end Matcher

end Acceptance
