import RuleMetrics.Rule.ConstructorSize

/-!
# The built-in rules
-/

namespace RuleMetrics

/-- The rules that a rule set can name, over a registry. -/
def builtinRules (registry : Registry) : List Rule :=
  [ConstructorSize.rule registry]

/-- The names of the built-in rules. -/
def builtinRuleNames : List String :=
  [ConstructorSize.ruleName]

/-- The built-in rule of a name, not configured. -/
def builtinRule? (registry : Registry) (name : String) : Option Rule :=
  (builtinRules registry).find? fun r => r.name == name

end RuleMetrics
