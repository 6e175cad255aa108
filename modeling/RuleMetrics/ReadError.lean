import RuleMetrics.Text.Quoted

/-!
# What can be wrong with a text

A text that should name a type, a method or a value fails for one of the causes below.  A cause
keeps the part of the text that it is about, and `ReadError.message` is its wording.
-/

namespace RuleMetrics

/-- How a text departs from its grammar. -/
inductive FormatFault where
  | tooManyDimensions
  | emptyTypeName
  | missingMethodMark
  | missingTypeName
  | textAfterArguments
  | emptyArgument
  | severalItems
deriving Repr, DecidableEq

/-- The wording of a fault. -/
def FormatFault.reason : FormatFault → String
  | tooManyDimensions => "too many array dimensions"
  | emptyTypeName => "empty type name"
  | missingMethodMark => "missing '#'"
  | missingTypeName => "missing type name"
  | textAfterArguments => "unexpected text after ')'"
  | emptyArgument => "empty argument type"
  | severalItems => "expected a single value"

/-- What a text should have been. -/
inductive Expected where
  | integer
  | number
  | boolean
deriving Repr, DecidableEq

/-- The wording of an expectation. -/
def Expected.noun : Expected → String
  | integer => "integer"
  | number => "number"
  | boolean => "boolean"

/-- Why a text does not give a value. -/
inductive ReadError where
  /-- The text does not follow the grammar of its kind. -/
  | invalidFormat (input : String) (fault : FormatFault)
  /-- A method reference has no method name. -/
  | missingMethodName (input : String)
  /-- The parentheses of a method reference do not match. -/
  | unbalancedGroup (input : String)
  /-- The text is not a number or a truth value. -/
  | invalidValue (input : String) (expected : Expected)
  /-- The text is well formed but its type name is not known. -/
  | unknownType (name : String)
  /-- The text is well formed but no type of the chain declares the method. -/
  | methodNotFound (owner : String) (method : String)
deriving Repr, DecidableEq

/-- The wording of an error. -/
def ReadError.message : ReadError → String
  | invalidFormat input fault => "invalid format " ++ Text.quote input ++ ": " ++ fault.reason
  | missingMethodName input => "missing method name in " ++ Text.quote input
  | unbalancedGroup input => "unbalanced parentheses in " ++ Text.quote input
  | invalidValue input expected => Text.quote input ++ " is not a valid " ++ expected.noun
  | unknownType name => "unknown type " ++ Text.quote name
  | methodNotFound owner method =>
    "no method " ++ method ++ " on " ++ owner ++ " or its ancestors"

end RuleMetrics
