/-!
# Ranges of code points

A property of characters is given by the ranges of code points that have it, in ascending order.
-/

namespace Condition.Unicode

/-- Ranges of code points, each with its first and its last member. -/
abbrev Ranges := List (Nat × Nat)

/-- Whether a code point lies in one of the ranges. -/
def Ranges.covers (ranges : Ranges) (code : Nat) : Bool :=
  ranges.any fun range => range.1 ≤ code && code ≤ range.2

end Condition.Unicode
