import Acceptance.CharSet

/-!
# Sets of characters as bytes

The written forms of the characters of a set in UTF-8, as sequences of ranges of bytes: a sequence
stands for all words with a byte from every range in turn. The sequences of a set make up a tree, in
which those that begin alike share their first steps.
-/

namespace Acceptance.CharSet

/-- A sequence of ranges of bytes. -/
abbrev ByteSequence := List (Nat × Nat)

/-- What the first byte of a written character is offset by, and what the digits behind it count, for a
number of bytes that follow. -/
structure Form where
  lead : Nat
  units : List Nat

/-- The sequence with a range before its own. -/
def headed (first last : Nat) (sequences : List ByteSequence) : List ByteSequence :=
  sequences.map ((first, last) :: ·)

/-- The sequences for the numbers between two, of digits in base 64. The first digit is offset by
`lead`, all others by the mark of a byte that follows. Where the numbers with one first digit are not all
there, they have sequences of their own. -/
def digitSequences (lead first last : Nat) : List Nat → List ByteSequence
  | [] => [[(lead + first, lead + last)]]
  | unit :: units =>
    let top := first / unit
    let end_ := last / unit
    let below := fun (first last : Nat) => digitSequences 0x80 first last units
    if top = end_ then headed (lead + top) (lead + top) (below (first % unit) (last % unit))
    else
      let start := if first % unit = 0 then top else top + 1
      let stop := if last % unit + 1 = unit then end_ + 1 else end_
      (if start = top then [] else
        headed (lead + top) (lead + top) (below (first % unit) (unit - 1))) ++
      (if start < stop then headed (lead + start) (lead + stop - 1) (below 0 (unit - 1)) else []) ++
      (if stop = end_ then headed (lead + end_) (lead + end_) (below 0 (last % unit)) else [])

/-- The code points of every length in bytes, with the form of their bytes. -/
def forms : List (Nat × Nat × Form) :=
  [(0, 0x7F, ⟨0, []⟩), (0x80, 0x7FF, ⟨0xC0, [64]⟩), (0x800, 0xFFFF, ⟨0xE0, [4096, 64]⟩),
    (0x10000, 0x10FFFF, ⟨0xF0, [262144, 4096, 64]⟩)]

/-- The sequences for a run of code points. -/
def runSequences (range : Nat × Nat) : List ByteSequence :=
  forms.flatMap fun form =>
    let first := max range.1 form.1
    let last := min range.2 form.2.1
    if first ≤ last then digitSequences form.2.2.lead first last form.2.2.units else []

/-- The sequences for the characters of a set, in rising order. -/
def byteSequences (set : CharSet) : List ByteSequence := set.ranges.flatMap runSequences

/-- What follows every first step of a tree of sequences. -/
def branchesOf (sequences : List ByteSequence) : List (List ByteSequence) :=
  (sequences.splitBy fun left right => left.head? == right.head?).map fun branch =>
    branch.map List.tail

/-- The number of steps in a tree of sequences of limited length. -/
def stepCount : Nat → List ByteSequence → Nat
  | 0, _ => 0
  | length + 1, sequences =>
    (branchesOf (sequences.filter (!·.isEmpty))).foldl
      (fun count branch => count + 1 + stepCount length branch) 0

/-- The trees that are met on the way through a tree of sequences of limited length, the whole tree
among them, but not the empty ends. -/
def subtrees : Nat → List ByteSequence → List (List ByteSequence)
  | 0, _ => []
  | length + 1, sequences =>
    if sequences.all List.isEmpty then []
    else sequences :: (branchesOf sequences).flatMap (subtrees length)

end Acceptance.CharSet
