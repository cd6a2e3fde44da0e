import Acceptance.Regex

/-!
# Written expressions

The form of a regular expression as it is written: groups and counted repetitions are kept. Sequences,
choices and repetitions of some parts are simplified where a shorter form matches the same in the same
order of preference. Compiling an expression numbers its places and unrolls its repetitions.
-/

namespace Acceptance.Regex

/-- A regular expression as written. A repetition without an upper bound has no `most`. -/
inductive Tree
  | empty
  | look (condition : Look)
  | literal (text : List Char)
  | oneOf (characters : CharSet)
  | group (number : Nat) (body : Tree)
  | seq (left right : Tree)
  | alt (left right : Tree)
  | repetition (least : Nat) (most : Option Nat) (greedy : Bool) (body : Tree)
deriving DecidableEq, Inhabited

namespace Tree

/-- The expression that matches one character of a set. A set of one character is a text. -/
def ofSet (set : CharSet) : Tree :=
  match set.single? with
  | some c => literal [c]
  | none => oneOf set

/-- The parts of an expression that follow one another. -/
def parts : Tree → List Tree
  | empty => []
  | seq left right => left.parts ++ right.parts
  | part => [part]

/-- The alternatives of an expression. -/
def alternatives : Tree → List Tree
  | alt left right => left.alternatives ++ right.alternatives
  | alternative => [alternative]

/-- Joins texts that follow one another. -/
def joinLiterals : List Tree → List Tree
  | [] => []
  | literal text :: rest =>
    match joinLiterals rest with
    | literal more :: rest => literal (text ++ more) :: rest
    | rest => literal text :: rest
  | part :: rest => part :: joinLiterals rest

/-- Some expressions one after another, as they are. -/
def chain : List Tree → Tree
  | [] => empty
  | [part] => part
  | part :: rest => seq part (chain rest)

/-- The sequence of some expressions. -/
def sequence (trees : List Tree) : Tree := chain (joinLiterals (trees.flatMap parts))

/-- Some expressions one after another, as they are, from the start of a text to its end. -/
def anchored (trees : List Tree) : Tree := chain (look .textStart :: (trees ++ [look .textEnd]))

/-- One or another of some expressions, as they are. Of none, nothing can be matched. -/
def options : List Tree → Tree
  | [] => oneOf .empty
  | [option] => option
  | option :: rest => alt option (options rest)

/-- The character of a text that has only one. -/
def character? : Tree → Option Char
  | literal [c] => some c
  | _ => none

/-- The set of an expression that matches one of its characters. -/
def set? : Tree → Option CharSet
  | oneOf set => some set
  | _ => none

/-- The choice between some expressions that are no choices themselves. Between single characters, or
between sets, it is a set. -/
def simpleChoice (trees : List Tree) : Tree :=
  match trees with
  | [tree] => tree
  | trees =>
    match trees.mapM character? with
    | some characters => ofSet (.ofList characters)
    | none =>
      match trees.mapM set? with
      | some sets => ofSet (.unions sets)
      | none => options trees

/-- The parts that two sequences begin with alike. -/
def sharedStart : List Tree → List Tree → List Tree
  | a :: left, b :: right => if a = b then a :: sharedStart left right else []
  | _, _ => []

/-- The parts that some sequences of at least two parts all begin with. -/
def commonStart : List Tree → List Tree
  | [] => []
  | first :: rest =>
    rest.foldl (fun start tree => sharedStart start (if tree matches seq .. then tree.parts else []))
      (if first matches seq .. then first.parts else [])

/-- The choice between some expressions. What sequences begin with alike stands in front of the
choice. -/
def choice (trees : List Tree) : Tree :=
  let trees := trees.flatMap alternatives
  match simpleChoice trees with
  | alt left right =>
    match commonStart trees with
    | [] => alt left right
    | start =>
      let ends := trees.map fun tree => sequence (tree.parts.drop start.length)
      sequence (start ++ [simpleChoice (ends.flatMap alternatives)])
  | tree => tree

/-- Whether the expression takes no character wherever it matches. -/
def takesNone : Tree → Bool
  | empty => true
  | look _ => true
  | literal _ => false
  | oneOf _ => false
  | group _ body => body.takesNone
  | seq left right => left.takesNone && right.takesNone
  | alt left right => left.takesNone && right.takesNone
  | .repetition _ most _ body => most.isSome && body.takesNone

/-- The least number of characters that the expression takes where it matches, if it can match. -/
def leastLength : Tree → Option Nat
  | empty => some 0
  | look _ => some 0
  | literal text => some text.length
  | oneOf characters => if characters.isEmpty then none else some 1
  | group _ body => body.leastLength
  | seq left right => do some ((← left.leastLength) + (← right.leastLength))
  | alt left right => do some (min (← left.leastLength) (← right.leastLength))
  | .repetition least _ _ body => body.leastLength.map (least * ·)

/-- Whether the expression takes a character wherever it matches, and can match. -/
def takesSome (tree : Tree) : Bool := tree.leastLength.any (0 < ·)

/-- A number of rounds. Of rounds that take nothing, one is as good as many. -/
def repeated (least : Nat) (most : Option Nat) (greedy : Bool) (body : Tree) : Tree :=
  let (least, most) :=
    if body.takesNone then (min least 1, some (min (most.getD 1) 1)) else (least, most)
  if least = 0 ∧ most = some 0 then empty
  else if least = 1 ∧ most = some 1 then body
  else .repetition least most greedy body

/-- One or more greedy rounds. -/
def oneOrMore (body : Tree) : Tree := .repetition 1 none true body

/-- Any number of greedy rounds. -/
def zeroOrMore (body : Tree) : Tree := .repetition 0 none true body

/-- Greedily one round or none. -/
def optional (body : Tree) : Tree := .repetition 0 (some 1) true body

/-- The places and nodes that the expression needs: one for each character and choice of every round. -/
def width : Tree → Nat
  | empty => 0
  | look _ => 0
  | literal text => text.length
  | oneOf _ => 1
  | group _ body => body.width
  | seq left right => left.width + right.width
  | alt left right => left.width + right.width + 1
  | .repetition least most _ body =>
    match most with
    | none => max least 1 * body.width + 2
    | some most => max least most * (body.width + 1)

/-- The characters of a text one after another, each at a place of its own from a given one on. -/
def spell (place : Nat) : List Char → Regex
  | [] => .empty
  | [c] => .one place (.single c)
  | c :: rest => .seq (.one place (.single c)) (spell (place + 1) rest)

/-- A number of rounds, each with places of its own, before what follows them. -/
def unroll (round : Nat → Regex) (width place : Nat) (rounds : Nat) (last : Regex) : Regex :=
  (List.range rounds).foldr (fun index rest => .seq (round (place + index * width)) rest) last

/-- A choice between going on with an expression and nothing, the former first if it is greedy. -/
def choose (node : Option Nat) (greedy : Bool) (expression : Regex) : Regex :=
  if greedy then .alt node expression .empty else .alt node .empty expression

/-- At most a number of rounds, each one inside the choice of the one before. Each has a node of its own
behind its places. -/
def atMost (cyclic greedy : Bool) (round : Nat → Regex) (width place : Nat) (rounds : Nat) : Regex :=
  (List.range rounds).foldr
    (fun index rest =>
      let place := place + index * (width + 1)
      choose (if cyclic then some (place + width) else none) greedy (.seq (round place) rest))
    .empty

/-- The expression with its places and nodes numbered from a given number on. Inside of a loop that can
take nothing choices and loops are nodes. A loop that may take nothing in its first round is a choice of
one or more rounds or none. -/
def compileFrom : Tree → Bool → Nat → Regex
  | empty, _, _ => .empty
  | look condition, _, _ => .look condition
  | literal text, _, place => spell place text
  | oneOf characters, _, place => .one place characters
  | group number body, cyclic, place =>
    .seq (.mark (2 * number)) (.seq (body.compileFrom cyclic place) (.mark (2 * number + 1)))
  | seq left right, cyclic, place =>
    .seq (left.compileFrom cyclic place) (right.compileFrom cyclic (place + left.width))
  | alt left right, cyclic, place =>
    .alt (if cyclic then some (place + left.width + right.width) else none)
      (left.compileFrom cyclic place) (right.compileFrom cyclic (place + left.width))
  | .repetition least none greedy body, cyclic, place =>
    let cyclic := cyclic || !body.takesSome
    let node := place + max least 1 * body.width
    let again (round : Regex) : Regex := .again (if cyclic then some node else none) greedy round
    let last := body.compileFrom cyclic (place + (least - 1) * body.width)
    if least = 0 then
      if body.takesSome then again last
      else choose (some (node + 1)) greedy (.seq last (again last))
    else
      unroll (fun place => body.compileFrom cyclic place) body.width place (least - 1)
        (.seq last (again last))
  | .repetition least (some most) greedy body, cyclic, place =>
    let round := fun place => body.compileFrom cyclic place
    unroll round body.width place least
      (atMost cyclic greedy round body.width (place + least * body.width) (most - least))

/-- The expression with its places numbered. -/
def compile (tree : Tree) : Regex := tree.compileFrom false 0

end Tree

end Acceptance.Regex
