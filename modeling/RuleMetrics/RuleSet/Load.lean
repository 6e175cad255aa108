import RuleMetrics.RuleSet.Basic
import RuleMetrics.Text.Cut

/-!
# Loading a rule set

Every rule of a rule set is made and configured by itself.  A rule that cannot be configured is
rejected with all problems of its properties; the others are not touched by it.
-/

namespace RuleMetrics

/-- A problem of a rule in a rule set. -/
inductive RuleProblem where
  | unknownRule (name : String)
  | property (error : ConfigureError)
  /-- The value of a property is neither a scalar nor a list of scalars. -/
  | notScalar (name : String)
  | thresholds (error : ThresholdError)
deriving Repr, DecidableEq

/-- The wording of a problem. -/
def RuleProblem.message : RuleProblem → String
  | unknownRule name => "unknown rule " ++ Text.quote name
  | property error => error.message
  | notScalar name =>
    "property " ++ Text.quote name ++ ": expected a scalar or a list of scalars"
  | thresholds error => error.message

/-- A rejected rule, with its problems in words. -/
structure RuleFailure where
  rule : String
  problems : List String
deriving Repr, DecidableEq

/-- The failure in one line. -/
def RuleFailure.text (f : RuleFailure) : String :=
  "rule " ++ f.rule ++ ": " ++ Text.join "; " f.problems

/-- What loading gives: the configured rules and the rejected ones, each in the order of the rule
set. -/
structure LoadReport where
  rules : List ConfiguredRule
  failures : List RuleFailure

/-- Whether no rule was rejected. -/
def LoadReport.isClean (r : LoadReport) : Bool := r.failures.isEmpty

/-- The raw text or texts of a property. -/
def DocumentValue.raw? : DocumentValue → Option RawValue
  | .list items => (items.mapM DocumentValue.scalarText?).map RawValue.items
  | v => v.scalarText?.map RawValue.text

/-- Configure one property. -/
def Rule.configureValue (r : Rule) (name : String) (v : DocumentValue) :
    Except RuleProblem Rule :=
  match v.raw? with
  | none => .error (.notScalar name)
  | some raw => (r.configure name raw).mapError RuleProblem.property

/-- Configure properties one after the other: the rule with those that could be configured, and the
problems of the others. -/
def Rule.configureAll (r : Rule) : List (String × DocumentValue) → Rule × List RuleProblem
  | [] => (r, [])
  | (name, v) :: rest =>
    match r.configureValue name v with
    | .ok r => r.configureAll rest
    | .error problem =>
      let (r, problems) := r.configureAll rest
      (r, problem :: problems)

/-- Make and configure the rule of an entry. -/
def RuleEntry.load (entry : RuleEntry) (registry : Registry) :
    Except (List RuleProblem) ConfiguredRule :=
  match builtinRule? registry entry.name with
  | none => .error [.unknownRule entry.name]
  | some rule =>
    match rule.configureAll entry.properties.entries with
    | (rule, []) =>
      (ConfiguredRule.ofRule rule (entry.severity.getD .standard)).mapError
        fun e => [.thresholds e]
    | (_, problems) => .error problems

/-- Load the rules of a rule set. -/
def RuleSet.load (s : RuleSet) (registry : Registry) : LoadReport :=
  let outcomes := s.rules.map fun entry => (entry.name, entry.load registry)
  { rules := outcomes.filterMap fun o => o.2.toOption
    failures := outcomes.filterMap fun o =>
      match o.2 with
      | .ok _ => none
      | .error problems => some ⟨o.1, problems.map RuleProblem.message⟩ }

end RuleMetrics
