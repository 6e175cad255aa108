import RuleMetrics.Rule.Basic

/-!
# The size of constructors

This rule scores each constructor of a Java file by its non-commenting source statements: one for
the declaration and one for each statement of its body, nested statements included.  An `else`
counts one on top of its `if`.  What stands in the body of a type declared inside the constructor
belongs to that type and is not counted.

Calls to methods that the property `ignoredCalls` lists do not count.  A call is matched by its
name and its number of arguments, since a syntax tree has no types.
-/

namespace RuleMetrics.ConstructorSize

/-- The name of the rule. -/
def ruleName : String := "NcssConstructorCount"

/-- The property that lists ignored calls. -/
def ignoredCallsName : String := "ignoredCalls"

/-! ## Counting statements -/

/-- The kinds of node that are the body of a type declaration. -/
def typeBodyKinds : List String :=
  ["class_body", "enum_body", "interface_body", "annotation_type_body"]

/-- The kinds of node that count as one statement each. -/
def statementKinds : List String :=
  ["expression_statement", "local_variable_declaration", "explicit_constructor_invocation",
    "if_statement", "for_statement", "enhanced_for_statement", "while_statement", "do_statement",
    "return_statement", "throw_statement", "break_statement", "continue_statement",
    "try_statement", "try_with_resources_statement", "catch_clause", "finally_clause",
    "switch_block_statement_group", "switch_rule", "synchronized_statement", "labeled_statement",
    "assert_statement", "yield_statement"]

/-- Whether the node is the body of a nested type. -/
def isTypeBody (t : SyntaxTree) : Bool :=
  typeBodyKinds.contains t.kind

/-- The name and the number of arguments of a method call. -/
def callShape (call : SyntaxTree) : String × Nat :=
  ((call.childInField "name").elim "" fun name => name.textOr "",
    (call.childInField "arguments").elim 0 fun arguments => arguments.namedChildren.length)

/-- The name and the number of parameters of a method. -/
def signatureShape (m : MethodSignature) : String × Nat :=
  (m.name, m.parameters.length)

/-- Whether the node is a statement that only calls one of the ignored methods. -/
def isIgnoredCall (ignored : List MethodSignature) (t : SyntaxTree) : Bool :=
  if ignored.isEmpty || t.kind != "expression_statement" then false
  else
    match t.namedChildren with
    | call :: _ =>
      call.kind == "method_invocation" &&
        ignored.any fun m => signatureShape m == callShape call
    | [] => false

/-- What a node adds to the count by itself. -/
def weight (ignored : List MethodSignature) (t : SyntaxTree) : Nat :=
  if statementKinds.contains t.kind && !isIgnoredCall ignored t then
    if t.kind = "if_statement" ∧ (t.childInField "alternative").isSome then 2 else 1
  else 0

/-- Count statements with a list of nodes still to visit.  The children of a visited node are
visited next; a type body is left out with all that is in it. -/
def countPending (ignored : List MethodSignature) (count : Nat) : List SyntaxTree → Nat
  | [] => count
  | t :: pending =>
    if isTypeBody t then countPending ignored count pending
    else countPending ignored (count + weight ignored t) (t.namedChildren.reverse ++ pending)
termination_by pending => SyntaxTree.sizeAll pending
decreasing_by
  · cases t with
    | node label children => simp only [SyntaxTree.sizeAll, SyntaxTree.size]; omega
  · have := SyntaxTree.sizeAll_namedChildren_lt t
    simp only [SyntaxTree.sizeAll_append, SyntaxTree.sizeAll_reverse, SyntaxTree.sizeAll]
    omega

/-- The number of statements in a body. -/
def countStatements (ignored : List MethodSignature) (body : SyntaxTree) : Nat :=
  countPending ignored 0 [body]

/-! ## Labels -/

/-- The node that spells the type of a formal parameter.  The type of a parameter of variable
arity is the first part of it that is not a modifier. -/
def parameterType? (parameter : SyntaxTree) : Option SyntaxTree :=
  if parameter.kind = "formal_parameter" then parameter.childInField "type"
  else if parameter.kind = "spread_parameter" then
    parameter.namedChildren.find? fun part => part.kind != "modifiers"
  else none

/-- The label of a constructor: its name and the types of its parameters as they are written. -/
def constructorLabel (constructor : SyntaxTree) : String :=
  let name := ((constructor.childInField "name").bind fun n => n.label.text).getD "<init>"
  let types :=
    match constructor.childInField "parameters" with
    | some parameters => parameters.namedChildren.filterMap parameterType?
    | none => []
  name ++ "(" ++ Text.join "," (types.map fun t => t.textOr "") ++ ")"

/-! ## The rule -/

/-- The score of a constructor: one and the statements of its body. -/
def constructorScore (ignored : List MethodSignature) (constructor : SyntaxTree) : Nat :=
  1 + (constructor.childInField "body").elim 0 (countStatements ignored)

/-- The constructors of a file in the order in which they start, each before those inside it. -/
def constructors (tree : List SyntaxTree) : List SyntaxTree :=
  SyntaxTree.ofKindAll "constructor_declaration" tree

/-- Measure the constructors; their places in the list are their handles. -/
def measureAll (ignored : List MethodSignature) (found : List SyntaxTree) : Measurements :=
  found.foldl
    (fun m constructor =>
      m.add m.points.length (Decimal.floatOfNat (constructorScore ignored constructor))
        ⟨constructorLabel constructor, constructor.label.row + 1⟩)
    Measurements.empty

/-- Measure the constructors of a file. -/
def measure (properties : PropertySet) (source : Source) : Except MeasureError Measurements :=
  .ok (measureAll (properties.methods ignoredCallsName) (constructors source.tree))

/-- The property that lists ignored calls. -/
def ignoredCallsDescriptor (registry : Registry) : Descriptor :=
  .method
    ⟨ignoredCallsName, "Library calls that are not counted as statements", 4.0, some ' '⟩
    .absent registry (LegalNamespaces.ofList ["java.lang", "java.util"])

/-- The properties of the rule before any of them is configured. -/
def properties (registry : Registry) : PropertySet :=
  ((PropertySet.empty ruleName).defineUpTo
    (thresholdDescriptors (some (Decimal.floatOfNat 100)) ++
      [ignoredCallsDescriptor registry])).1

/-- The rule before any of its properties is configured. -/
def rule (registry : Registry) : Rule where
  name := ruleName
  description := "Constructors with too many non-commenting source statements"
  message := "The constructor \x7b0\x7d has an NCSS line count of \x7b1\x7d"
  extensions := ["java"]
  properties := properties registry
  measure := measure

end RuleMetrics.ConstructorSize
