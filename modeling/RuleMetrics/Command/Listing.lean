import RuleMetrics.Command.Response
import RuleMetrics.Report.Terminal
import RuleMetrics.Rule.Builtin

/-!
# Listing commands

The commands that print what the program knows: whether references to methods are valid, the
aliases of types, and the built-in rules with their properties.
-/

namespace RuleMetrics.Listing

open Report (line lines)

/-! ## References -/

/-- The property that references are read by. -/
def referenceDescriptor (registry : Registry) (namespaces : List String) : Descriptor :=
  .method ⟨"method", "", 0.0, none⟩ .absent registry (LegalNamespaces.ofList namespaces)

/-- The canonical text of a reference, or what is wrong with it. -/
def canonical (d : Descriptor) (reference : String) : Except String String :=
  match d.readText reference with
  | .error e => .error e.message
  | .ok v =>
    if v.isAbsent then .error "empty reference"
    else
      match d.problem v with
      | some problem => .error problem.message
      | none => .ok ((d.write v).getD "")

/-- The lines that answer for a reference. -/
def answer (mode : ColorMode) (reference : String) : Except String String → String
  | .ok text => line ("  " ++ styled mode .green "✓" ++ " " ++ text)
  | .error problem =>
    lines
      ["  " ++ styled mode .red "✗" ++ " " ++ reference, "      " ++ styled mode .dimmed problem]

/-- Print the canonical text of each reference, or what is wrong with it. -/
def methods (fs : FileSystem) (mode : ColorMode) (references namespaces : List String)
    (catalog : Option String) : Response :=
  withRegistry fs catalog fun registry =>
    let d := referenceDescriptor registry namespaces
    let answers := references.map fun reference => (reference, canonical d reference)
    let allValid := answers.all fun a => a.2.toBool
    .printed fs (if allValid then .success else .failed)
      (String.join (answers.map fun a => answer mode a.1 a.2))

/-! ## Aliases -/

/-- Print the aliases of types. -/
def aliases (fs : FileSystem) (catalog : Option String) : Response :=
  withRegistry fs catalog fun registry =>
    .printed fs .success
      (lines (registry.aliasNames.map fun entry => "  " ++ padded 20 entry.1 ++ " " ++ entry.2))

/-! ## Rules -/

/-- The line of a property: its name, its kind, its value, and the namespaces it is limited to. -/
def propertyLine (mode : ColorMode) (properties : PropertySet) (d : Descriptor) : String :=
  let text := ((properties.value? d.name).bind d.write).getD ""
  let start :=
    "      " ++ padded 16 d.name ++ " " ++ styledTo mode .dimmed 8 d.kind.name ++ " " ++
      (if text = "" then "-" else text)
  match d.legalNamespaces with
  | some legal =>
    line (start ++ " " ++ styled mode .dimmed ("(in " ++ Text.join ", " legal.prefixes ++ ")"))
  | none => line start

/-- The lines of a rule. -/
def ruleText (mode : ColorMode) (r : Rule) : String :=
  lines ["  " ++ styled mode .bold r.name, "    " ++ r.description] ++
    String.join (r.properties.inDisplayOrder.map (propertyLine mode r.properties)) ++ line ""

/-- Print the built-in rules with their properties. -/
def rules (fs : FileSystem) (mode : ColorMode) (catalog : Option String) : Response :=
  withRegistry fs catalog fun registry =>
    .printed fs .success
      (lines ["Available rules:", ""] ++
        String.join ((builtinRules registry).map (ruleText mode)))

end RuleMetrics.Listing
