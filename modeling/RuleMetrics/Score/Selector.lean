import RuleMetrics.Score.Number

/-!
# Selecting the scores that stand out

One run of a rule measures many nodes.  A selector flags those whose score reaches a fixed
minimum, or lies more than some standard deviations above the mean, and may keep only the highest
of them.  Selected points stay in the order in which they were recorded.

A point takes part only if its score is usable; the others have no influence at all.
-/

namespace RuleMetrics

/-- The measurement of one node. -/
structure DataPoint (α : Type) where
  node : Nat
  score : α
  /-- The place in traversal order. -/
  sequence : Nat
deriving Repr

/-- How a score is found to stand out. -/
inductive Policy (α : Type) where
  /-- It is at least this. -/
  | minimum (threshold : α)
  /-- It is more than this many standard deviations above the mean. -/
  | sigma (deviations : α)
deriving Repr

/-- A policy, and perhaps a limit on the number of points. -/
structure Selector (α : Type) where
  policy : Policy α
  top : Option Nat
deriving Repr

/-- A flagged node with the parameters of its message. -/
structure Violation where
  node : Nat
  parameters : List String
deriving Repr, DecidableEq

variable {α : Type} [ScoreNumber α]

/-! ## Mean and deviation -/

/-- The sum of a number and some more, from left to right. -/
def sumFrom (first : α) (rest : List α) : α :=
  rest.foldl (· + ·) first

/-- The square of the distance of a score from the mean. -/
def squaredDistance (mean score : α) : α :=
  (score - mean) * (score - mean)

/-- The mean and the sample standard deviation of two or more scores. -/
def meanAndDeviation : List α → Option (α × α)
  | first :: second :: rest =>
    let others := second :: rest
    let mean := sumFrom first others / ScoreNumber.ofCount (others.length + 1)
    let squares := sumFrom (squaredDistance mean first) (others.map (squaredDistance mean))
    some (mean, ScoreNumber.squareRoot (squares / ScoreNumber.ofCount others.length))
  | _ => none

/-! ## Selection -/

/-- Whether a point takes part in selection. -/
def DataPoint.isUsable (p : DataPoint α) : Bool :=
  ScoreNumber.usable p.score

/-- The test that a policy puts to each score, given all usable scores; none if there are too few
of them. -/
def Policy.test? (policy : Policy α) (scores : List α) : Option (α → Bool) :=
  match policy with
  | .minimum threshold => some fun score => ScoreNumber.atLeast score threshold
  | .sigma deviations =>
    (meanAndDeviation scores).map fun (mean, deviation) score =>
      ScoreNumber.above score (mean + deviations * deviation)

/-- The usable points that a policy flags. -/
def Policy.flagged (policy : Policy α) (points : List (DataPoint α)) : List (DataPoint α) :=
  let usable := points.filter DataPoint.isUsable
  match policy.test? (usable.map DataPoint.score) with
  | some test => usable.filter fun p => test p.score
  | none => []

/-- Whether a point ranks before another or level with it: by higher score, then by earlier
sequence. -/
def DataPoint.ranksBefore (p q : DataPoint α) : Bool :=
  ScoreNumber.outranks p.score q.score ||
    (!ScoreNumber.outranks q.score p.score && decide (p.sequence ≤ q.sequence))

/-- The points whose sequence is among those of the `count` best-ranked ones, in their own
order. -/
def keepHighest (count : Nat) (points : List (DataPoint α)) : List (DataPoint α) :=
  let kept := ((points.mergeSort DataPoint.ranksBefore).take count).map DataPoint.sequence
  points.filter fun p => kept.contains p.sequence

/-- The selected points. -/
def Selector.select (s : Selector α) (points : List (DataPoint α)) : List (DataPoint α) :=
  let flagged := s.policy.flagged points
  match s.top with
  | some count => if count < flagged.length then keepHighest count flagged else flagged
  | none => flagged

/-- One violation for each selected point. -/
def Selector.violations (s : Selector α) (points : List (DataPoint α))
    (parameters : DataPoint α → List String) : List Violation :=
  (s.select points).map fun p => ⟨p.node, parameters p⟩

/-! ## Recording -/

/-- The points of one run after one more measurement. -/
def record (points : List (DataPoint α)) (node : Nat) (score : α) : List (DataPoint α) :=
  points ++ [⟨node, score, points.length⟩]

end RuleMetrics
