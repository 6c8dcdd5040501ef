/-! # Sets of code points

A property of characters is stored as a list of closed ranges of code points.

* **`CodePoints`** is such a list, **`CodePoints.contains`** looks a character up. -/

namespace LinearSweep.Text

/-- **A set of code points** as a list of closed ranges `(low, high)`. -/
abbrev CodePoints := List (Nat × Nat)

namespace CodePoints

/-- Whether the code point of a character lies in one of the ranges. -/
def contains (ranges : CodePoints) (c : Char) : Bool :=
  ranges.any fun range => range.1 ≤ c.toNat && c.toNat ≤ range.2

end CodePoints

end LinearSweep.Text
