import Acceptance.CharSet.Utf8
import Acceptance.Power
import Acceptance.Regex.Tree
import Acceptance.Unicode.Property

/-!
# The size of expressions

How much space the automaton of an expression takes that reads a text byte by byte, forward or
backward. Every state takes the same space, and more for every way on that it offers beyond one. An
expression is accepted when both automata stay below a limit.
-/

namespace Acceptance.Regex

/-- The direction in which an automaton reads a text. -/
inductive Direction
  | forward
  | backward
deriving DecidableEq

namespace Size

/-- The space of a state in bytes. -/
def state : Nat := 32

/-- The space that a state takes with several ranges of bytes to go on with. -/
def sparse (ranges : Nat) : Nat := state + 8 * ranges

/-- The space that a state takes with several states to go on to. -/
def union (states : Nat) : Nat := state + 4 * states

/-- The space for a set of characters as bytes. Forward, parts of the automaton that read the same are
shared; backward, those that come from the same start are. -/
def setFrom (direction : Direction) (set : CharSet) : Nat :=
  if set.isAscii then state + sparse set.ranges.length
  else
    let sequences := set.byteSequences
    match direction with
    | .forward =>
      (CharSet.subtrees 4 sequences).eraseDups.foldl
        (fun size tree => size + sparse (CharSet.branchesOf tree).length) state
    | .backward =>
      state + union sequences.length + state * CharSet.stepCount 4 sequences

/-- Sets that many expressions hold, with the space they take. -/
def knownSets : List (CharSet × Nat × Nat) :=
  [Unicode.word, Unicode.decimalNumber, Unicode.whiteSpace, Unicode.word.compl,
    Unicode.decimalNumber.compl, Unicode.whiteSpace.compl, (CharSet.single '\n').compl].map
    fun set => (set, setFrom .forward set, setFrom .backward set)

/-- The space for a set of characters. -/
def set (direction : Direction) (set : CharSet) : Nat :=
  match knownSets.lookup set, direction with
  | some sizes, .forward => sizes.1
  | some sizes, .backward => sizes.2
  | none, direction => setFrom direction set

/-- The words that come next in a list up to an empty one, and those behind each empty one in turn.
Of empty words at the start only the first one counts. -/
def chunks : List (List UInt8) → List (List (List UInt8))
  | [] => [[]]
  | [] :: rest => [] :: chunks rest
  | word :: rest =>
    match chunks rest with
    | chunk :: later => (word :: chunk) :: later
    | [] => [[word]]

/-- The words without the repetitions of an empty one before any other word. -/
def dropRepeatedEnds : List (List UInt8) → List (List UInt8)
  | [] :: [] :: rest => dropRepeatedEnds ([] :: rest)
  | words => words

/-- The space for the states that tell apart some words of limited length, in the order in which they
are preferred. Words that go on behind the end of another one are kept apart from those before it. -/
def words : Nat → List (List UInt8) → Nat
  | 0, _ => 0
  | length + 1, list =>
    if list.all List.isEmpty then 0
    else
      let chunks := chunks (dropRepeatedEnds list)
      let ends := chunks.length - 1
      let chunks := chunks.filter (!·.isEmpty)
      chunks.foldl
        (fun size chunk =>
          let starts := (chunk.filterMap List.head?).eraseDups
          let here := if starts.length = 1 then state else sparse starts.length
          starts.foldl
            (fun size start =>
              size + words length ((chunk.filter (·.head? == some start)).map List.tail))
            (size + here))
        (union (chunks.length + ends))

/-- The bytes of a text in the order in which they are read. -/
def bytesOf (direction : Direction) (text : List Char) : List UInt8 :=
  let bytes := (String.ofList text).toUTF8.toList
  match direction with
  | .forward => bytes
  | .backward => bytes.reverse

/-- The texts of an expression that is a choice between texts. -/
def choiceOfTexts? (tree : Tree) : Option (List (List Char)) :=
  match tree.alternatives with
  | [_] => none
  | alternatives =>
    alternatives.mapM fun alternative =>
      match alternative with
      | .literal text => some text
      | _ => none

/-- The space for a choice between texts. -/
def textChoice (direction : Direction) (texts : List (List Char)) : Nat :=
  let list := texts.map (bytesOf direction)
  state + words (list.foldl (fun length word => max length (word.length + 1)) 0) list

mutual

/-- The space for an expression. A capturing group marks its ends in the forward direction only. -/
def tree (direction : Direction) : Tree → Nat
  | .empty => state
  | .look _ => state
  | .literal text => state * (bytesOf .forward text).length
  | .oneOf characters => set direction characters
  | .group _ body =>
    (match direction with
      | .forward => 2 * state
      | .backward => 0) + tree direction body
  | .seq left right => tree direction left + tree direction right
  | .alt left right =>
    match choiceOfTexts? (.alt left right) with
    | some texts => textChoice direction texts
    | none => 2 * state + options direction left + options direction right
  | .repetition least most _ body =>
    let round := tree direction body
    match least, most with
    | 0, none =>
      if body.takesSome then union 2 + round else 2 * union 2 + state + round
    | least, none => least * round + union 2
    | least, some most =>
      if least = most then least * round
      else if least = 0 ∧ most = 1 then union 2 + state + round
      else
        (if least = 0 then state else least * round) + state + (most - least) * (union 2 + round)

/-- The space for an expression as some of the options of a choice. -/
def options (direction : Direction) : Tree → Nat
  | .alt left right => options direction left + options direction right
  | option => 4 + tree direction option

end

end Size

namespace Tree

/-- Whether the expression matches only where a condition holds at the end of its match at which the
direction begins to read. -/
def beginsWith (condition : Look) (direction : Direction) : Tree → Bool
  | empty => false
  | look found => found == condition
  | literal _ => false
  | oneOf _ => false
  | group _ body => body.beginsWith condition direction
  | seq left right =>
    match direction with
    | .forward =>
      left.beginsWith condition direction ||
        (left.takesNone && right.beginsWith condition direction)
    | .backward =>
      right.beginsWith condition direction ||
        (right.takesNone && left.beginsWith condition direction)
  | alt left right => left.beginsWith condition direction && right.beginsWith condition direction
  | .repetition least _ _ body => least != 0 && body.beginsWith condition direction

/-- The space for the automaton of an expression: for what may come before a match, for the match and
its marks, and for its end. -/
def size (tree : Tree) (direction : Direction) : Nat :=
  let end_ : Look := match direction with
    | .forward => .textStart
    | .backward => .textEnd
  let before :=
    if tree.beginsWith end_ direction then Size.state
    else Size.union 2 + Size.state + Size.sparse 1
  let marks := match direction with
    | .forward => 2 * Size.state
    | .backward => 0
  before + marks + Size.tree direction tree + Size.state

/-- The largest space that an automaton may take, in bytes. -/
def maxSize : Nat := 10 * twoTo 20

/-- Whether the automata of an expression stay within a limit, if there is one. -/
def fits (limit : Option Nat) (tree : Tree) : Bool :=
  limit.all fun limit => tree.size .forward ≤ limit && tree.size .backward ≤ limit

end Tree

end Acceptance.Regex
