/-!
# Property values

A property has no value, one item, or an ordered list of items.  An empty list is a value; it is
not the same as having none.
-/

namespace RuleMetrics

/-- A value whose items are of type `α`. -/
inductive PropertyValue (α : Type) where
  | absent
  | single (item : α)
  | multi (items : List α)
deriving Repr, BEq, DecidableEq

namespace PropertyValue

variable {α : Type}

/-- All items in order. -/
def items : PropertyValue α → List α
  | absent => []
  | single item => [item]
  | multi items => items

/-- The first item. -/
def first? (v : PropertyValue α) : Option α :=
  v.items.head?

/-- Whether there is no value. -/
def isAbsent : PropertyValue α → Bool
  | absent => true
  | _ => false

end PropertyValue

/-- The kinds of property. -/
inductive PropertyKind where
  | integer
  | float
  | boolean
  | text
  | method
  | type
deriving Repr, DecidableEq

/-- The name that a kind is shown by. -/
def PropertyKind.name : PropertyKind → String
  | integer => "integer"
  | float => "float"
  | boolean => "boolean"
  | text => "string"
  | method => "method"
  | type => "type"

end RuleMetrics
