/-!
# Ranges of code points

A Unicode property is stored as the list of its maximal runs of code points, and a character
mapping as runs that all move by one distance.
-/

namespace Acceptance.Unicode

/-- Whether a code point lies in one of the inclusive ranges. -/
def inRanges (ranges : List (Nat × Nat)) (point : Nat) : Bool :=
  ranges.any fun range => range.1 ≤ point && point ≤ range.2

/-- Code points `first, first + stride, …, last`. -/
structure Run where
  first : Nat
  last : Nat
  stride : Nat

/-- Code points `first, first + stride, …, last`, each mapped by adding `offset`. -/
structure Shift where
  first : Nat
  last : Nat
  stride : Nat
  offset : Int

namespace Shift

/-- Whether the run holds a code point. -/
def covers (shift : Shift) (point : Nat) : Bool :=
  shift.first ≤ point && point ≤ shift.last && (point - shift.first) % shift.stride == 0

/-- The image of a code point of the run. -/
def image (shift : Shift) (point : Nat) : Nat := (Int.ofNat point + shift.offset).toNat

end Shift

/-- Applies the first run that holds the character; a character in none is left alone. -/
def shiftChar (shifts : List Shift) (c : Char) : Char :=
  match shifts.find? (·.covers c.toNat) with
  | some shift => Char.ofNat (shift.image c.toNat)
  | none => c

end Acceptance.Unicode
