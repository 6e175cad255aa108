import RuleMetrics.ReadError
import RuleMetrics.Text.Blank
import RuleMetrics.Text.Cut

/-!
# The text of a method reference

A reference is written as a type, `#`, a method, and perhaps the types of its parameters in
parentheses, as in `String#substring(int, int)`.  Blanks may stand around every part.  Without
parentheses the method has no parameters.

`Reference.parse` takes a text apart and looks nothing up.
-/

namespace RuleMetrics

/-- The parts of a reference as they are written, trimmed. -/
structure Reference where
  typeName : String
  methodName : String
  arguments : List String
deriving Repr, DecidableEq

namespace Reference

/-- Read the arguments between the parentheses. -/
def parseArguments (input : String) (interior : List Char) : Except ReadError (List String) :=
  if Text.allBlank interior then .ok []
  else
    let arguments := (Text.pieces ',' interior).map Text.trimChars
    if [] ∈ arguments then .error (.invalidFormat input .emptyArgument)
    else .ok (arguments.map String.ofList)

/-- Read what follows the opening parenthesis. -/
def parseGroup (input : String) (group : List Char) : Except ReadError (List String) :=
  match Text.cut ')' group with
  | none => .error (.unbalancedGroup input)
  | some (interior, tail) =>
    if '(' ∈ interior then .error (.unbalancedGroup input)
    else if !Text.allBlank tail then .error (.invalidFormat input .textAfterArguments)
    else parseArguments input interior

/-- Read what follows the `#`: the method name and the arguments. -/
def parseMethod (input : String) (rest : List Char) :
    Except ReadError (List Char × List String) :=
  match Text.cut '(' rest with
  | none =>
    if ')' ∈ rest then .error (.unbalancedGroup input)
    else
      let name := Text.trimChars rest
      if name = [] then .error (.missingMethodName input) else .ok (name, [])
  | some (before, group) =>
    let name := Text.trimChars before
    if name = [] then .error (.missingMethodName input)
    else (parseGroup input group).map fun arguments => (name, arguments)

/-- Take a reference apart. -/
def parse (input : String) : Except ReadError Reference :=
  match Text.cut '#' input.toList with
  | none => .error (.invalidFormat input .missingMethodMark)
  | some (before, rest) =>
    let typeName := Text.trimChars before
    if typeName = [] then .error (.invalidFormat input .missingTypeName)
    else
      (parseMethod input rest).map fun parts =>
        ⟨String.ofList typeName, String.ofList parts.1, parts.2⟩

end Reference

end RuleMetrics
