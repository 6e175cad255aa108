import RuleMetrics.Document.Value
import RuleMetrics.Glob.Match
import RuleMetrics.Rule.Builtin
import RuleMetrics.Text.Table

/-!
# Rule sets

A rule set names the rules to run, how grave their violations are, and the raw values of their
properties.  It also lists patterns of paths to leave out.
-/

namespace RuleMetrics

/-- A rule of a rule set. -/
structure RuleEntry where
  name : String
  severity : Option Severity
  properties : Text.Table DocumentValue

/-- A rule set. -/
structure RuleSet where
  version : String
  name : String
  description : Option String
  excludedPaths : List String
  rules : List RuleEntry

namespace RuleSet

/-- All built-in rules with the defaults of their properties. -/
def builtin : RuleSet where
  version := ""
  name := "builtin"
  description := none
  excludedPaths := []
  rules := builtinRuleNames.map fun name => ⟨name, none, .empty⟩

end RuleSet

/-! ## Exclusions -/

/-- A pattern of excluded paths that cannot be read. -/
structure ExclusionError where
  pattern : String
  fault : GlobFault
deriving Repr, DecidableEq

/-- The wording of the error. -/
def ExclusionError.message (e : ExclusionError) : String :=
  "invalid excluded_paths pattern " ++ Text.quote e.pattern ++ ": error parsing glob \x27" ++
    e.pattern ++ "\x27: " ++ e.fault.message

/-- The patterns of the paths that are left out. -/
structure Exclusions where
  globs : List Glob

/-- Whether a path is left out. -/
def Exclusions.excludes (e : Exclusions) (path : String) : Bool :=
  e.globs.any fun g => g.accepts path

/-- The exclusions of a rule set, or its first pattern that cannot be read. -/
def RuleSet.exclusions (s : RuleSet) : Except ExclusionError Exclusions := do
  let globs ← s.excludedPaths.mapM fun pattern =>
    (Glob.parse pattern).mapError fun fault => ExclusionError.mk pattern fault
  return ⟨globs⟩

end RuleMetrics
