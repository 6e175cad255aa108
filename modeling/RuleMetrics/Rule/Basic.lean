import RuleMetrics.Rule.Measurement
import RuleMetrics.Rule.Message
import RuleMetrics.Rule.Threshold
import RuleMetrics.Syntax.Tree

/-!
# Rules

A rule measures the nodes of a file that it is interested in.  A configured rule has a selector,
which its threshold properties gave, and turns measurements into violations with messages.
-/

namespace RuleMetrics

/-- How grave a violation is. -/
inductive Severity where
  | error
  | warning
  | info
deriving Repr, DecidableEq

namespace Severity

/-- The severity of a rule that gives none. -/
def standard : Severity := warning

/-- The name that a severity is written by. -/
def name : Severity → String
  | error => "error"
  | warning => "warning"
  | info => "info"

/-- The severity that a name means. -/
def ofName? (name : String) : Option Severity :=
  [error, warning, info].find? fun s => s.name == name

end Severity

/-- A file that a rule could not measure. -/
structure MeasureError where
  reason : String
deriving Repr, DecidableEq

/-- A rule with its properties. -/
structure Rule where
  name : String
  description : String
  /-- The template of messages; `{0}` is the name of the node and `{1}` its score. -/
  message : String
  /-- The extensions, without a dot, of the files that the rule measures. -/
  extensions : List String
  properties : PropertySet
  /-- Measure a file under a configuration. -/
  measure : PropertySet → Source → Except MeasureError Measurements

namespace Rule

/-- Whether the rule measures files with this extension. -/
def handles (r : Rule) (extension : String) : Bool :=
  r.extensions.contains extension

/-- The rule after one of its properties was configured. -/
def configure (r : Rule) (name : String) (raw : RawValue) : Except ConfigureError Rule :=
  (r.properties.configure name raw).map fun properties => { r with properties }

end Rule

/-- A rule whose selector is known. -/
structure ConfiguredRule where
  rule : Rule
  selector : Selector Float
  severity : Severity

namespace ConfiguredRule

/-- Give a rule the selector of its properties. -/
def ofRule (r : Rule) (severity : Severity) : Except ThresholdError ConfiguredRule :=
  (selectorFor r.name r.properties).map fun selector => ⟨r, selector, severity⟩

/-- The name of the rule. -/
def name (c : ConfiguredRule) : String :=
  c.rule.name

/-- Measure a file. -/
def measure (c : ConfiguredRule) (source : Source) : Except MeasureError Measurements :=
  c.rule.measure c.rule.properties source

/-- The violations among measurements. -/
def apply (c : ConfiguredRule) (m : Measurements) : List Violation :=
  c.selector.violations m.points fun p => [m.identify p.node, scoreText p.score]

/-- The message of a violation. -/
def message (c : ConfiguredRule) (v : Violation) : String :=
  Template.format c.rule.message v.parameters

end ConfiguredRule

end RuleMetrics
