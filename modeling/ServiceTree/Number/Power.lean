/-!
# Powers of two and of ten

The weights of the places in binary and in decimal numbers.
-/

namespace ServiceTree

/-- A power of two. -/
def twoTo (exponent : Nat) : Nat := Nat.pow 2 exponent

/-- A power of ten. -/
def tenTo (exponent : Nat) : Nat := Nat.pow 10 exponent

/-- The next place weighs ten times as much. -/
theorem tenTo_succ (exponent : Nat) : tenTo (exponent + 1) = tenTo exponent * 10 := rfl

end ServiceTree
