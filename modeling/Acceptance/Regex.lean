import Acceptance.Unicode.Word

/-!
# Regular expressions

Regular expressions with capturing groups and the search for their leftmost match. Of several
matches that start at one place the search prefers the one that comes first when alternatives are
tried from left to right and greedy loops before what follows them.

A search keeps a list of threads in the order of preference. A thread is an expression that remains
to be matched, with the group marks it has passed. Every character moves all threads at once, and of
two threads that took it at one place the later can be dropped: whatever it matches, the earlier one
matches too. So the work is bounded by the number of places of the expression, whatever the text.
-/

namespace Acceptance

/-- The characters that words are made of: those of all scripts, or those of ASCII. -/
inductive Regex.Words
  | all
  | ascii
deriving DecidableEq, Inhabited

/-- A condition on the neighbourhood of a position that takes no character. -/
inductive Regex.Look
  | textStart
  | textEnd
  | lineStart
  | lineEnd
  | lineStartCrLf
  | lineEndCrLf
  | wordEdge (words : Regex.Words) (expected : Bool)
  | wordStart (words : Regex.Words)
  | wordEnd (words : Regex.Words)
  | wordStartHalf (words : Regex.Words)
  | wordEndHalf (words : Regex.Words)
deriving DecidableEq, Inhabited

/-- A regular expression. A place number tells apart the single-character parts; the rounds of a loop
share theirs. A part of a loop that can take nothing has a node number where it may be met again before
a character is taken. Group `n` is what lies between the marks `2 * n` and `2 * n + 1`. -/
inductive Regex
  | empty
  | look (condition : Regex.Look)
  | mark (slot : Nat)
  | one (place : Nat) (set : CharSet)
  | seq (left right : Regex)
  | alt (node : Option Nat) (left right : Regex)
  | again (node : Option Nat) (greedy : Bool) (body : Regex)
deriving Inhabited

namespace Regex

/-- The characters on both sides of a position. -/
structure Neighbours where
  before : Option Char
  after : Option Char

/-- Whether a character belongs to words. -/
def Words.contains : Words → Char → Bool
  | all, c => Unicode.isWordChar c
  | ascii, c => c.isAlphanum || c == '_'

/-- Whether a neighbour exists and is a word character. -/
def Words.holds (words : Words) (neighbour : Option Char) : Bool := neighbour.any words.contains

/-- Whether a condition holds between two characters. -/
def Look.holds (at_ : Neighbours) : Look → Bool
  | textStart => at_.before.isNone
  | textEnd => at_.after.isNone
  | lineStart => at_.before.all (· == '\n')
  | lineEnd => at_.after.all (· == '\n')
  | lineStartCrLf =>
    at_.before.all fun c => c == '\n' || (c == '\r' && at_.after != some '\n')
  | lineEndCrLf =>
    at_.after.all fun c => c == '\r' || (c == '\n' && at_.before != some '\r')
  | wordEdge words expected => (words.holds at_.before != words.holds at_.after) == expected
  | wordStart words => !words.holds at_.before && words.holds at_.after
  | wordEnd words => words.holds at_.before && !words.holds at_.after
  | wordStartHalf words => !words.holds at_.before
  | wordEndHalf words => !words.holds at_.after

/-- A way to begin matching an expression at a position: to finish at once, having met some nodes, or
to take a character and go on with the rest. Both pass marks first. -/
inductive Branch
  | finish (marks : List Nat) (met : List Nat)
  | take (marks : List Nat) (place : Nat) (set : CharSet) (rest : Regex)

namespace Branch

/-- Whether the branch takes no character. -/
def isFinish : Branch → Bool
  | finish .. => true
  | take .. => false

/-- The branch with marks passed before its own. -/
def passing (marks : List Nat) : Branch → Branch
  | finish later met => finish (marks ++ later) met
  | take later place set rest => take (marks ++ later) place set rest

end Branch

/-- `left` followed by `right`. -/
def followedBy (left right : Regex) : Regex :=
  match left with
  | empty => right
  | _ => seq left right

/-- The branches of an expression followed by `next`, given its own branches and those of `next` after
the nodes that were met. Where the first part can finish, the branches of `next` take its place. -/
def continueWith (next : Regex) (nextBranches : List Nat → List Branch) : List Branch → List Branch
  | [] => []
  | .take marks place set rest :: later =>
    .take marks place set (followedBy rest next) :: continueWith next nextBranches later
  | .finish marks met :: later =>
    (nextBranches met).map (Branch.passing marks) ++ continueWith next nextBranches later

/-- The branches of two alternatives. Only the first way to finish counts. -/
def eitherOf (first second : List Branch) : List Branch :=
  first ++ if first.any Branch.isFinish then second.filter (!·.isFinish) else second

/-- The branches of a loop body as further rounds of the loop. A round takes at least a character. -/
def rounds (loop : Regex) (branches : List Branch) : List Branch :=
  branches.filterMap fun branch =>
    match branch with
    | .finish .. => none
    | .take marks place set rest => some (.take marks place set (followedBy rest loop))

/-- The nodes that were met after coming to one, unless it was met before. A part without a number is
never met again. -/
def meet? (node : Option Nat) (met : List Nat) : Option (List Nat) :=
  match node with
  | none => some met
  | some node => if met.contains node then none else some (node :: met)

/-- The ways to begin matching an expression at a position, in the order of preference, when some nodes
were met since the last character was taken. At most one of them takes no character. What comes to a
node again can only repeat what its first visit offers, and so offers nothing. -/
def branches (at_ : Neighbours) : Regex → List Nat → List Branch
  | empty, met => [.finish [] met]
  | look condition, met => if condition.holds at_ then [.finish [] met] else []
  | mark slot, met => [.finish [slot] met]
  | one place set, _ => [.take [] place set empty]
  | seq left right, met =>
    continueWith right (fun met => branches at_ right met) (branches at_ left met)
  | alt node left right, met =>
    match meet? node met with
    | none => []
    | some met => eitherOf (branches at_ left met) (branches at_ right met)
  | again node greedy body, met =>
    match meet? node met with
    | none => []
    | some met =>
      let more := rounds (again node greedy body) (branches at_ body met)
      if greedy then more ++ [.finish [] met] else .finish [] met :: more

/-- Positions at which marks were passed, the latest first. -/
abbrev Marks := List (Nat × Nat)

/-- An expression that remains to be matched behind the character of a place, and the marks passed so
far. The place decides what remains. -/
structure Thread where
  place : Nat
  rest : Regex
  marks : Marks

/-- Marks passed at a position, added to earlier ones. -/
def Marks.pass (position : Nat) (slots : List Nat) (marks : Marks) : Marks :=
  slots.foldl (fun marks slot => (slot, position) :: marks) marks

/-- The marks of the most preferred thread that can finish at a position, and the threads that take
the next character ahead of it. -/
structure Advance where
  finished : Option Marks
  threads : List Thread

/-- Adds a thread unless one from the same place precedes it. -/
def addThread (threads : List Thread) (thread : Thread) : List Thread :=
  if threads.any (·.place == thread.place) then threads else threads ++ [thread]

/-- Follows the branches of one thread. They end where it can finish. -/
def advanceBranches (position : Nat) (next : Option Char) (marks : Marks)
    (threads : List Thread) : List Branch → Advance
  | [] => ⟨none, threads⟩
  | .finish slots _ :: _ => ⟨some (marks.pass position slots), threads⟩
  | .take slots place set rest :: later =>
    let threads :=
      if next.any set.contains then addThread threads ⟨place, rest, marks.pass position slots⟩
      else threads
    advanceBranches position next marks threads later

/-- Moves what remains to be matched, with the marks passed so far, over the next character. What
comes behind a thread that can finish is dropped. -/
def advance (position : Nat) (at_ : Neighbours) (threads : List Thread) :
    List (Regex × Marks) → Advance
  | [] => ⟨none, threads⟩
  | (rest, marks) :: later =>
    let ahead := advanceBranches position at_.after marks threads (branches at_ rest [])
    match ahead.finished with
    | some marks => ⟨some marks, ahead.threads⟩
    | none => advance position at_ ahead.threads later

/-- What remains to be matched at a position: what the threads have left and, as long as no match was
found, the whole expression. -/
def remaining (regex : Regex) (threads : List Thread) (found : Option Marks) :
    List (Regex × Marks) :=
  threads.map (fun thread => (thread.rest, thread.marks)) ++
    if found.isNone then [(regex, [])] else []

/-- Searches the rest of a text for the end of a match. As long as none was found a new match may begin
at every position, behind all others. -/
def searchFrom (regex : Regex) (position : Nat) (before : Option Char) (threads : List Thread)
    (found : Option Marks) : List Char → Option Marks
  | [] => (advance position ⟨before, none⟩ [] (remaining regex threads found)).finished.or found
  | c :: text =>
    let ahead := advance position ⟨before, some c⟩ [] (remaining regex threads found)
    searchFrom regex (position + 1) (some c) ahead.threads (ahead.finished.or found) text

/-- The marks of the preferred leftmost match of an expression in a text. -/
def search (regex : Regex) (text : List Char) : Option Marks :=
  searchFrom regex 0 none [] none text

/-- The text of a group, given the marks of a match. -/
def group (text : List Char) (marks : Marks) (number : Nat) : Option (List Char) := do
  let first ← marks.lookup (2 * number)
  let last ← marks.lookup (2 * number + 1)
  some ((text.drop first).take (last - first))

end Regex

end Acceptance
