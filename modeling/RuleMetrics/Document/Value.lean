import RuleMetrics.Decimal.Layout

/-!
# Values of documents

Configuration arrives as a document: scalars, lists and maps.  The raw text of a property is the
text of a scalar, whatever its type.
-/

namespace RuleMetrics

/-- A value of a document. -/
inductive DocumentValue where
  | null
  | bool (b : Bool)
  | integer (n : Int)
  | float (x : Float)
  | text (s : String)
  | list (items : List DocumentValue)
  | map (entries : List (DocumentValue × DocumentValue))
  /-- A value under an application's own tag. -/
  | tagged (tag : String) (value : DocumentValue)
deriving Inhabited

namespace DocumentValue

/-- The text of a scalar; null is the empty text. -/
def scalarText? : DocumentValue → Option String
  | null => some ""
  | bool b => some (if b then "true" else "false")
  | integer n => some (Decimal.intText n)
  | float x => some (Decimal.documentFloatText x)
  | text s => some s
  | list _ => none
  | map _ => none
  | tagged .. => none

mutual

/-- Whether two values are the same as keys of a map.  The order of a map's entries does not
count, and all that is not a number is one value. -/
def same : DocumentValue → DocumentValue → Bool
  | null, null => true
  | bool a, bool b => a == b
  | integer a, integer b => a == b
  | float a, float b => a == b || (a.isNaN && b.isNaN)
  | text a, text b => a == b
  | list as, list bs => sameAll as bs
  | map as, map bs => as.length == bs.length && within as bs
  | tagged s a, tagged t b => s == t && same a b
  | _, _ => false

/-- Whether two lists of values are the same. -/
def sameAll : List DocumentValue → List DocumentValue → Bool
  | [], [] => true
  | a :: as, b :: bs => same a b && sameAll as bs
  | _, _ => false

/-- Whether every entry of a map is one of another map. -/
def within : List (DocumentValue × DocumentValue) → List (DocumentValue × DocumentValue) → Bool
  | [], _ => true
  | (k, v) :: rest, bs => (bs.any fun e => same k e.1 && same v e.2) && within rest bs

end

/-- Whether a key occurs twice among the entries of a map. -/
def hasRepeatedKey : List (DocumentValue × DocumentValue) → Bool
  | [] => false
  | (k, _) :: rest => (rest.any fun e => same k e.1) || hasRepeatedKey rest

end DocumentValue

end RuleMetrics
