import RuleMetrics.Report.JsonText
import RuleMetrics.RuleSet.Load
import RuleMetrics.Run.Result

/-!
# Reports of a run

A report holds what a run found, the rules that were rejected, and a breakdown of the violations by
rule.
-/

namespace RuleMetrics

/-- The version of this program. -/
def version : String := "0.1.0"

/-- The number of violations of a rule. -/
structure BreakdownEntry where
  rule : String
  violations : Nat
deriving Repr, DecidableEq

/-- A report of a run. -/
structure Report where
  version : String
  /-- The path that was checked. -/
  path : String
  ruleset : String
  passed : Bool
  filesScanned : Nat
  violations : List ReportedViolation
  skipped : List String
  ruleFailures : List RuleFailure
  breakdown : List BreakdownEntry
deriving Repr, DecidableEq

namespace Report

/-- The report of a result. -/
def ofResult (path ruleset : String) (result : RunResult) (failures : List RuleFailure) :
    Report where
  version := RuleMetrics.version
  path
  ruleset
  passed := result.isClean
  filesScanned := result.scanned
  violations := result.violations
  skipped := result.skipped
  ruleFailures := failures
  breakdown := result.countsByRule.map fun entry => ⟨entry.1, entry.2⟩

/-- A list of texts. -/
def textList (texts : List String) : JsonValue :=
  .list (texts.map JsonValue.text)

/-- The fields of a violation. -/
def violationDocument (v : ReportedViolation) : JsonValue :=
  .object
    [("rule", .text v.rule), ("severity", .text v.severity.name), ("file", .text v.file),
      ("line", .number v.line), ("message", .text v.message),
      ("parameters", textList v.parameters)]

/-- The fields of a report.  Skipped files and rejected rules are left out if there are none. -/
def document (r : Report) : JsonValue :=
  .object <|
    [("version", .text r.version), ("path", .text r.path), ("ruleset", .text r.ruleset),
      ("passed", .bool r.passed), ("files_scanned", .number r.filesScanned),
      ("violations", .list (r.violations.map violationDocument))] ++
    (if r.skipped.isEmpty then [] else [("skipped", textList r.skipped)]) ++
    (if r.ruleFailures.isEmpty then []
      else
        [("rule_failures", .list (r.ruleFailures.map fun f =>
          .object [("rule", .text f.rule), ("problems", textList f.problems)]))]) ++
    [("breakdown", .list (r.breakdown.map fun entry =>
      .object [("rule", .text entry.rule), ("violations", .number entry.violations)]))]

/-- The report as a JSON text with a line end. -/
def jsonText (r : Report) : String :=
  r.document.layout 0 ++ "\n"

end Report

end RuleMetrics
