import Acceptance.Unicode.Range

/-!
# Sets of characters

A set of characters is the list of its runs of code points in rising order, with a gap between any two.
Surrogates are code points but no characters, and no set holds them. Every operation keeps this form,
so sets are equal when they hold the same characters.
-/

namespace Acceptance

/-- A set of characters, as its runs of code points. -/
structure CharSet where
  ranges : List (Nat × Nat)
deriving DecidableEq, Inhabited

namespace CharSet

/-- Whether a set holds a character. -/
def contains (set : CharSet) (c : Char) : Bool := Unicode.inRanges set.ranges c.toNat

/-- Joins a run and those that start behind it where they meet. -/
def joinFrom (first last : Nat) : List (Nat × Nat) → List (Nat × Nat)
  | [] => [(first, last)]
  | (start, stop) :: rest =>
    if start ≤ last + 1 then joinFrom first (max last stop) rest
    else (first, last) :: joinFrom start stop rest

/-- Joins runs in the order of their starts where they meet. -/
def join : List (Nat × Nat) → List (Nat × Nat)
  | [] => []
  | (first, last) :: rest => joinFrom first last rest

/-- The parts of a run that lie before and behind the surrogates. -/
def withoutSurrogates (range : Nat × Nat) : List (Nat × Nat) :=
  [(range.1, min range.2 0xD7FF), (max range.1 0xE000, range.2)].filter fun part => part.1 ≤ part.2

/-- The characters of some runs, which may come in any order and overlap. -/
def ofRanges (ranges : List (Nat × Nat)) : CharSet :=
  ⟨join ((ranges.flatMap withoutSurrogates).mergeSort fun left right => left.1 ≤ right.1)⟩

/-- The characters of some runs with strides. -/
def ofRuns (runs : List Unicode.Run) : CharSet :=
  .ofRanges <| runs.flatMap fun run =>
    if run.stride = 1 then [(run.first, run.last)]
    else (List.range ((run.last - run.first) / run.stride + 1)).map fun step =>
      (run.first + step * run.stride, run.first + step * run.stride)

/-- The set without characters. -/
def empty : CharSet := ⟨[]⟩

/-- The set of all characters. -/
def all : CharSet := .ofRanges [(0, 0x10FFFF)]

/-- The set of one character. -/
def single (c : Char) : CharSet := ⟨[(c.toNat, c.toNat)]⟩

/-- The characters from one to another. -/
def range (first last : Char) : CharSet := .ofRanges [(first.toNat, last.toNat)]

/-- The characters of a list. -/
def ofList (characters : List Char) : CharSet :=
  .ofRanges (characters.map fun c => (c.toNat, c.toNat))

/-- The characters of either set. -/
def union (left right : CharSet) : CharSet :=
  ⟨join (left.ranges.merge right.ranges fun left right => left.1 ≤ right.1)⟩

/-- The characters of any of some sets. -/
def unions (sets : List CharSet) : CharSet := .ofRanges (sets.flatMap ranges)

/-- The gaps before, between and behind runs, from a code point on. -/
def gapsFrom (first : Nat) : List (Nat × Nat) → List (Nat × Nat)
  | [] => if first ≤ 0x10FFFF then [(first, 0x10FFFF)] else []
  | (start, stop) :: rest =>
    if first < start then (first, start - 1) :: gapsFrom (stop + 1) rest
    else gapsFrom (stop + 1) rest

/-- The characters outside a set. -/
def compl (set : CharSet) : CharSet := ⟨(gapsFrom 0 set.ranges).flatMap withoutSurrogates⟩

/-- The characters of both sets. -/
def inter (left right : CharSet) : CharSet := (left.compl.union right.compl).compl

/-- The characters of the first set outside the second. -/
def diff (left right : CharSet) : CharSet := left.inter right.compl

/-- The characters of one set but not of the other. -/
def symmetricDifference (left right : CharSet) : CharSet :=
  (left.union right).diff (left.inter right)

/-- Whether a set has no characters. -/
def isEmpty (set : CharSet) : Bool := set.ranges.isEmpty

/-- Whether all characters of a set are ASCII. -/
def isAscii (set : CharSet) : Bool := set.ranges.all fun range => range.2 < 0x80

/-- The character of a set that has only one. -/
def single? (set : CharSet) : Option Char :=
  match set.ranges with
  | [(first, last)] => if first = last then some (Char.ofNat first) else none
  | _ => none

end CharSet

end Acceptance
