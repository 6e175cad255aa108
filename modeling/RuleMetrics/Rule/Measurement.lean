import RuleMetrics.Score.Selector

/-!
# Measurements

What one run of a rule over one file gives: the data points, and for measured nodes a label with
a name for messages and a line for the report.
-/

namespace RuleMetrics

/-- How a measured node is shown. -/
structure ScoreLabel where
  name : String
  /-- The line, counted from one. -/
  line : Nat
deriving Repr, DecidableEq

/-- Data points in traversal order, and the labels of nodes. -/
structure Measurements where
  points : List (DataPoint Float)
  labels : List (Nat × ScoreLabel)

namespace Measurements

/-- Nothing measured. -/
def empty : Measurements := ⟨[], []⟩

/-- Add a measurement of a node without a label. -/
def addPoint (m : Measurements) (node : Nat) (score : Float) : Measurements :=
  { m with points := record m.points node score }

/-- Add a measurement of a node.  A label replaces an earlier one of the same node. -/
def add (m : Measurements) (node : Nat) (score : Float) (label : ScoreLabel) : Measurements :=
  { m.addPoint node score with labels := (node, label) :: m.labels }

/-- The label of a node. -/
def label? (m : Measurements) (node : Nat) : Option ScoreLabel :=
  m.labels.lookup node

/-- The name of a node in messages. -/
def identify (m : Measurements) (node : Nat) : String :=
  match m.label? node with
  | some label => label.name
  | none => "node#" ++ Decimal.intText node

end Measurements

end RuleMetrics
