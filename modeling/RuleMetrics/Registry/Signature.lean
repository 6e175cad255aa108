import RuleMetrics.Registry.Reference
import RuleMetrics.Registry.Usage

/-!
# Method signatures

A reference is resolved against a registry: its type and its argument types are looked up, and the
nearest declaration of the method from that type upwards is found.  The signature keeps the type
that declares the method, which may be an ancestor of the type that the reference names.
-/

namespace RuleMetrics

/-- A method of a registry. -/
structure MethodSignature where
  declaringType : TypeId
  name : String
  parameters : List TypeUsage
deriving Repr, DecidableEq

namespace Registry

/-- The signature that a reference means. -/
def resolveReference (r : Registry) (reference : Reference) : Except ReadError MethodSignature :=
  match r.resolve reference.typeName with
  | none => .error (.unknownType reference.typeName)
  | some owner => do
    let parameters ← reference.arguments.mapM r.resolveUsage
    match r.findMethod owner reference.methodName parameters with
    | some declaringType => .ok ⟨declaringType, reference.methodName, parameters⟩
    | none =>
      .error (.methodNotFound (r.qualifiedName owner)
        (reference.methodName ++ "(" ++ Text.join "," reference.arguments ++ ")"))

/-- The signature that a text means. -/
def readSignature (r : Registry) (text : String) : Except ReadError MethodSignature := do
  r.resolveReference (← Reference.parse (Text.trim text))

/-- A signature as a reference, with the short names of its types. -/
def signatureText (r : Registry) (m : MethodSignature) : String :=
  r.shortName m.declaringType ++ "#" ++ m.name ++ "(" ++
    Text.join "," (m.parameters.map r.usageText) ++ ")"

end Registry

end RuleMetrics
