/-!
# Powers

The powers that the sizes of words and the scales of decimals are.
-/

namespace Acceptance

/-- A power of two. -/
def twoTo (exponent : Nat) : Nat := Nat.pow 2 exponent

/-- A power of ten. -/
def tenTo (exponent : Nat) : Nat := Nat.pow 10 exponent

end Acceptance
