import Acceptance.Gherkin.Document
import Acceptance.Text.Dedent

/-!
# Reading of Gherkin

Documents are read from left to right, one construct after another, each from where the one before it
ended. What is tried and does not fit leaves the text as it was. Blanks, line ends and comments may
stand between most constructs; in front of the heading of a feature and behind tags, a line of blanks
alone is not one of them. Only English keywords are known.
-/

namespace Acceptance.Gherkin

/-- Reads something at the start of a text and leaves the rest, if the text begins with it. -/
abbrev Parser := StateT (List Char) Option

namespace Parser

/-- Reads as many items as there are, given how to read one. Reading stops in front of an item that
takes up no text. -/
def manyFrom {α : Type} (item : Parser α) (text : List Char) : List α × List Char :=
  match item text with
  | none => ([], text)
  | some (value, rest) =>
    if _shorter : rest.length < text.length then
      let (values, rest) := manyFrom item rest
      (value :: values, rest)
    else ([], text)
termination_by text.length

/-- Reads as many items as there are. -/
def many {α : Type} (item : Parser α) : Parser (List α) := fun text => some (manyFrom item text)

/-- Reads something that may be missing. -/
def maybe {α : Type} (item : Parser α) : Parser (Option α) := fun text =>
  match item text with
  | some (value, rest) => some (some value, rest)
  | none => some (none, text)

/-- Reads the given characters. -/
def literal (word : String) : Parser Unit := fun text =>
  (Text.after? word.toList text).map ((), ·)

/-- Whether a character separates words on a line. -/
def isGap (c : Char) : Bool := c = ' ' || c = '\t'

/-- Passes over the blanks of a line. -/
def skipGap : Parser Unit := fun text => some ((), text.dropWhile isGap)

/-- What is left of a text behind the blanks, line ends and comments that it begins with, or that it
begins with once a comment has ended. -/
def afterLayout : (comment : Bool) → List Char → List Char
  | _, [] => []
  | true, c :: rest => afterLayout (c != '\n') rest
  | false, '\r' :: '\n' :: rest => afterLayout false rest
  | false, c :: rest =>
    if isGap c || c = '\n' then afterLayout false rest
    else if c = '#' then afterLayout true rest
    else c :: rest

/-- Passes over blanks, line ends and comments. -/
def skipLayout : Parser Unit := fun text => some ((), afterLayout false text)

/-- Passes over some layout, which has to be there unless the text ends here. -/
def endPart : Parser Unit := fun text =>
  let rest := afterLayout false text
  if text.isEmpty || rest.length < text.length then some ((), rest) else none

/-- Passes over the end of a line, with a comment that stands in front of it. -/
def lineBreak : Parser Unit := fun text =>
  match text.dropWhile isGap with
  | '#' :: rest =>
    match rest.dropWhile (· != '\n') with
    | _ :: rest => some ((), rest)
    | [] => none
  | _ =>
    match text with
    | '\n' :: rest => some ((), rest)
    | '\r' :: '\n' :: rest => some ((), rest)
    | _ => none

/-- Passes over empty lines and comments. -/
def skipBreaks : Parser Unit := do
  let _ ← many lineBreak

/-- The rest of a line, and the text from its end on. -/
def splitLine : List Char → List Char × List Char
  | [] => ([], [])
  | '\n' :: rest => ([], '\n' :: rest)
  | '\r' :: '\n' :: rest => ([], '\r' :: '\n' :: rest)
  | c :: rest =>
    let (line, rest) := splitLine rest
    (c :: line, rest)

/-- Reads the rest of a line, without the blanks at both of its ends. -/
def restOfLine : Parser String := fun text =>
  let (line, rest) := splitLine (text.dropWhile isGap)
  some (String.ofList (Text.trimRight line), rest)

/-- Reads the rest of a line that has to have something on it. -/
def textOfLine : Parser String := fun text =>
  let (line, rest) := splitLine (text.dropWhile isGap)
  if line.isEmpty then none else some (String.ofList (Text.trimRight line), rest)

/-! ## Keywords -/

/-- The words for a feature. -/
def featureWords : List String := ["Feature", "Business Need", "Ability"]

/-- The words for a background. -/
def backgroundWords : List String := ["Background"]

/-- The words for a rule. -/
def ruleWords : List String := ["Rule"]

/-- The words for a scenario and for a scenario outline. -/
def scenarioWords : List String :=
  ["Example", "Scenario", "Scenario Outline", "Scenario Template"]

/-- The words for a block of examples. -/
def examplesWords : List String := ["Examples", "Scenarios"]

/-- The keywords of steps as a line begins with them, and whether a step with one goes on with the kind
of the step before it. -/
def stepWords : List (String × Bool) :=
  [("* ", false), ("Given ", false), ("When ", false), ("Then ", false), ("And ", true),
    ("But ", true)]

/-- Reads a heading: one of some words, a colon, and a title that may be empty. -/
def heading : List String → Parser String
  | [] => failure
  | word :: rest =>
    (do
      literal word
      literal ":"
      restOfLine) <|> heading rest

/-- Whether a text begins with one of some words. -/
def beginsWith (words : List String) (text : List Char) : Bool :=
  words.any fun word => word.toList.isPrefixOf text

/-- What is left of a text behind the lines of a description, or behind the end of the current line
and those after it. A description ends before a tag or one of some words. -/
def afterDescription (stops : List String) : (inside : Bool) → List Char → List Char
  | _, [] => []
  | true, c :: rest => afterDescription stops (c != '\n') rest
  | false, c :: rest =>
    if isGap c || c = '\n' then afterDescription stops false rest
    else if c = '@' || beginsWith stops (c :: rest) then c :: rest
    else afterDescription stops true rest

/-- Passes over a description. -/
def skipDescription (stops : List String) : Parser Unit := fun text =>
  some ((), afterDescription stops false text)

/-- What ends the description of a feature. -/
def featureStops : List String := backgroundWords ++ ruleWords ++ scenarioWords

/-- What ends the description of a rule. -/
def ruleStops : List String := backgroundWords ++ scenarioWords

/-- What ends the description of a background or a scenario. -/
def scenarioStops : List String := scenarioWords ++ stepWords.map Prod.fst

/-- What ends the description of a block of examples. -/
def examplesStops : List String := scenarioStops ++ ["|"]

/-! ## Tags -/

/-- Whether a character may stand in a tag. -/
def isTagChar (c : Char) : Bool := !Text.isBlank c && c != '@'

/-- Reads a tag. -/
def tag : Parser String := do
  literal "@"
  let name ← fun text => some (text.span isTagChar)
  if name.isEmpty then failure
  pure (String.ofList name)

/-- Reads tags with layout between them. -/
def someTags : Parser (List String) := do
  let first ← tag
  let others ← many do
    skipLayout
    tag
  pure (first :: others)

/-- Reads the tags in front of something, if there are any, the rest of their line and the empty lines
and comments after them. -/
def tags : Parser (List String) := do
  let names ← maybe someTags
  skipGap
  skipBreaks
  pure (names.getD [])

/-- Reads the tags in front of a rule, a scenario or a block of examples, with the layout before them
and the indentation of what they belong to. -/
def blockTags : Parser (List String) := do
  skipLayout
  let names ← tags
  skipGap
  pure names

/-! ## Steps -/

/-- The text up to the next occurrence of a mark, and the text behind it. A mark does not count from a
`#` on to the end of the line. -/
def untilMark? (mark : List Char) : (comment : Bool) → List Char → Option (List Char × List Char)
  | _, [] => none
  | true, c :: rest =>
    (untilMark? mark (c != '\n') rest).map fun parts => (c :: parts.1, parts.2)
  | false, c :: rest =>
    match Text.after? mark (c :: rest) with
    | some behind => some ([], behind)
    | none => (untilMark? mark (c == '#') rest).map fun parts => (c :: parts.1, parts.2)

/-- Reads a doc string between two marks, and gives it without the indentation of its lines. -/
def docStringIn (mark : String) : Parser String := do
  literal mark
  let body ← untilMark? mark.toList false
  endPart
  pure (String.ofList (Text.dedent body))

/-- Reads a doc string. -/
def docString : Parser String := docStringIn "\"\"\"" <|> docStringIn "```"

/-- Whether a text begins with a line end or is at its end. -/
def atLineEnd : List Char → Bool
  | [] => true
  | '\n' :: _ => true
  | '\r' :: '\n' :: _ => true
  | _ => false

/-- Whether a character may stand in a cell. -/
def isCellChar (c : Char) : Bool := c != '|' && c != '\n'

/-- Reads the cells of a row. Every cell follows a bar, and the row ends with a bar at the end of its
line. -/
def cells (text : List Char) : Option (List String × List Char) :=
  match text with
  | '|' :: rest =>
    let inner := rest.dropWhile isGap
    if atLineEnd inner then some ([], inner)
    else do
      let (values, rest) ← cells (inner.dropWhile isCellChar)
      some (String.ofList (Text.trim (inner.takeWhile isCellChar)) :: values, rest)
  | _ => none
termination_by text.length
decreasing_by
  have inner_le := (List.dropWhile_sublist isGap (l := rest)).length_le
  have after_le := (List.dropWhile_sublist isCellChar (l := rest.dropWhile isGap)).length_le
  simp only [List.length_cons]
  omega

/-- Reads a row of a table and the layout after it. -/
def row : Parser (List String) := do
  let values ← cells
  skipLayout
  pure values

/-- Reads a table. All of its rows have to be at least as wide as the first one, and are cut to its
width. -/
def table : Parser (List (List String)) := do
  let first ← row
  let others ← many row
  if others.all fun other => first.length ≤ other.length then
    pure (first :: others.map (List.take first.length))
  else failure

/-- Reads the keyword of a step, with whether the step goes on with the kind of the one before it. -/
def stepKeyword : List (String × Bool) → Parser (String × Bool)
  | [] => failure
  | (word, continues) :: rest => (literal word *> pure (word, continues)) <|> stepKeyword rest

/-- Reads a step. The first step of a list may not be one that goes on. -/
def step (first : Bool) : Parser StepLine := do
  skipLayout
  let (keyword, continues) ← stepKeyword stepWords
  if first && continues then failure
  let text ← textOfLine
  skipLayout
  let docString ← maybe docString
  let table ← maybe table
  pure { keyword, text, docString, table }

/-- Reads as many steps as there are. -/
def steps : Parser (List StepLine) := do
  match ← maybe (step true) with
  | none => pure []
  | some head => do
    let rest ← many (step false)
    pure (head :: rest)

/-! ## Blocks -/

/-- Reads the steps of a background. -/
def background : Parser (List StepLine) := do
  skipLayout
  let _ ← heading backgroundWords
  skipDescription scenarioStops
  steps

/-- Reads a block of examples. -/
def examples : Parser ExamplesBlock := do
  let tags ← blockTags
  let _ ← heading examplesWords
  skipDescription examplesStops
  let table ← maybe table
  pure { tags, table }

/-- Reads a scenario or a scenario outline. -/
def scenario : Parser ScenarioBlock := do
  let tags ← blockTags
  let name ← heading scenarioWords
  skipDescription scenarioStops
  let steps ← steps
  let examples ← many examples
  pure { name, tags, steps, examples }

/-- Reads a rule. -/
def rule : Parser Rule := do
  let tags ← blockTags
  let name ← heading ruleWords
  skipDescription ruleStops
  let background ← maybe background
  let scenarios ← many scenario
  pure { name, tags, background, scenarios }

/-- Reads the name of the language, which is all that is left of the line that tells it. -/
def language : Parser String := do
  fun text => some ((), text.dropWhile fun c => isGap c || c = '\n' || c = '\r')
  literal "#"
  skipGap
  literal "language"
  skipGap
  literal ":"
  skipGap
  let name ← fun text => some (splitLine text)
  if name.isEmpty then failure
  lineBreak
  pure (String.ofList name)

/-- Reads a document up to the end of the text. -/
def document : Parser Document := do
  skipGap
  let language ← maybe language
  if language.any (· != "en") then failure
  skipBreaks
  let tags ← tags
  let name ← heading featureWords
  skipDescription featureStops
  let background ← maybe background
  let scenarios ← many scenario
  let rules ← many rule
  skipLayout
  if (← get).isEmpty then pure { name, tags, background, scenarios, rules } else failure

end Parser

/-- The text with a newline at its end. -/
def closeLastLine (text : List Char) : List Char :=
  if text.getLast? = some '\n' then text else text ++ ['\n']

/-- Reads a document. There is none if the text is not one in Gherkin. -/
def Document.parse? (text : String) : Option Document :=
  (Parser.document.run (closeLastLine text.toList)).map Prod.fst

/-- Reads the feature that a text in Gherkin stands for. -/
def parseFeature? (text : String) : Option Feature :=
  (Document.parse? text).map Document.toFeature

end Acceptance.Gherkin
