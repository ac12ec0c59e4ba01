/-!
# Sets of code points

A property of characters is a list of closed ranges of code points, in ascending order.
-/

namespace DeskView.Text

/-- Closed ranges of code points, each by its first and last one. -/
abbrev CodePoints := Array (Nat × Nat)

/-- Whether a character lies in one of the ranges. -/
def CodePoints.contains (ranges : CodePoints) (c : Char) : Bool :=
  ranges.any fun range => range.1 ≤ c.toNat && c.toNat ≤ range.2

end DeskView.Text
