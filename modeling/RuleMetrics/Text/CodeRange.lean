/-!
# Ranges of code points

A character property is a list of ranges of code points.  The lists of this library are
ascending and their ranges do not touch, so each property has one list.
-/

namespace RuleMetrics.Text

/-- The code points from the first to the second component, both included. -/
abbrev CodeRange := Nat × Nat

/-- Whether one of the ranges holds the character. -/
def CodeRange.covers (ranges : List CodeRange) (c : Char) : Bool :=
  ranges.any fun r => decide (r.1 ≤ c.toNat) && decide (c.toNat ≤ r.2)

end RuleMetrics.Text
