import RuleMetrics.Command.Check
import RuleMetrics.Command.Init
import RuleMetrics.Command.Invocation
import RuleMetrics.Command.Listing

/-!
# Running a command
-/

namespace RuleMetrics

/-- Run a command over files. -/
def Invocation.run (fs : FileSystem) (mode : ColorMode) : Invocation → Response
  | check path ruleset format catalog => Check.run fs mode path ruleset format catalog
  | method references namespaces catalog =>
    Listing.methods fs mode references namespaces catalog
  | aliases catalog => Listing.aliases fs catalog
  | rules catalog => Listing.rules fs mode catalog
  | init output => Init.run fs output

end RuleMetrics
