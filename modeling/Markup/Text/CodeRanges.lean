/-!
# Ranges of code points

A class of characters is given by the ranges of code points in it, both ends included.
-/

namespace Markup.Text

/-- Ranges of code points, both ends included. -/
abbrev CodeRanges := List (Nat × Nat)

/-- Does one of the ranges hold the character? -/
def CodeRanges.contains (ranges : CodeRanges) (c : Char) : Bool :=
  ranges.any fun range => decide (range.1 ≤ c.toNat) && decide (c.toNat ≤ range.2)

end Markup.Text
