import RuleMetrics.Decimal.Layout

/-!
# Numbers that scores are measured in

Selection needs little of its numbers: arithmetic for the mean and the deviation, the two
comparisons of the threshold policies, and an order in which scores are ranked.  It is written
over any type that has these, so that its laws can be stated in exact arithmetic too.  Rules
measure in doubles.
-/

namespace RuleMetrics

/-- What selection needs of a type of scores. -/
class ScoreNumber (α : Type) extends Add α, Sub α, Mul α, Div α where
  /-- The number of things counted. -/
  ofCount : Nat → α
  squareRoot : α → α
  /-- Whether a score takes part in selection. -/
  usable : α → Bool
  /-- `score ≥ threshold` -/
  atLeast (score threshold : α) : Bool
  /-- `score > threshold` -/
  above (score threshold : α) : Bool
  /-- Whether the first score ranks strictly above the second. -/
  outranks (score other : α) : Bool

/-- Doubles.  A score takes part when it is finite and not negative; scores are ranked by the total
order of doubles. -/
instance : ScoreNumber Float where
  ofCount := Decimal.floatOfNat
  squareRoot := Float.sqrt
  usable x := Decimal.isFinite x && Decimal.atMost (Decimal.floatOfNat 0) x
  atLeast score threshold := Decimal.atMost threshold score
  above score threshold := Decimal.below threshold score
  outranks score other := decide (Decimal.totalKey other < Decimal.totalKey score)

/-- The text of a score: its integer part. -/
def scoreText (score : Float) : String :=
  Decimal.intText (Decimal.truncate score)

end RuleMetrics
