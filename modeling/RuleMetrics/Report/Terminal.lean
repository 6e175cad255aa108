import RuleMetrics.Report.Basic
import RuleMetrics.Report.Style

/-!
# Reports for a terminal

The report that people read: what was checked, the rejected rules, the violations with their
messages, the skipped files, the breakdown, and whether the check passed.  Sections without entries
are left out.
-/

namespace RuleMetrics.Report

/-- The name of this program in its output. -/
def programName : String := "rulecore"

/-- A text and a line end. -/
def line (text : String) : String := text ++ "\n"

/-- Lines with a line end each. -/
def lines (texts : List String) : String := String.join (texts.map line)

/-- A count in parentheses and a colon. -/
def countMark (n : Nat) : String := " (" ++ Decimal.intText n ++ "):"

/-- The severity before a violation. -/
def severityTag (mode : ColorMode) (s : Severity) : String :=
  let tag :=
    match s with
    | .error => styled mode .red "ERROR"
    | .warning => styled mode .yellow "WARN "
    | .info => styled mode .blue "INFO "
  "    " ++ tag ++ " "

/-- What was checked. -/
def headerText (mode : ColorMode) (r : Report) : String :=
  lines
    ["", "  " ++ styled mode .boldCyan programName ++ " v" ++ r.version, "",
      "  " ++ styled mode .dimmed "Scanning: " ++ r.path,
      "  " ++ styled mode .dimmed "Rule set: " ++ r.ruleset, ""]

/-- The rejected rules with their problems. -/
def failuresText (mode : ColorMode) (failures : List RuleFailure) : String :=
  if failures.isEmpty then ""
  else
    line ("  " ++ styled mode .boldRed "Rejected rules" ++ countMark failures.length) ++
      String.join (failures.map fun f =>
        lines (("    " ++ styled mode .bold f.rule) :: f.problems.map ("      " ++ ·))) ++
      line ""

/-- A violation with its message. -/
def violationText (mode : ColorMode) (v : ReportedViolation) : String :=
  let place := if v.line = 0 then "" else styled mode .dimmed (":" ++ Decimal.intText v.line)
  lines
    [severityTag mode v.severity ++ "   " ++ styledTo mode .dimmed 24 v.rule ++
        styled mode .blue v.file ++ place,
      "            " ++ v.message, ""]

/-- The violations. -/
def violationsText (mode : ColorMode) (violations : List ReportedViolation) : String :=
  if violations.isEmpty then ""
  else
    lines ["  " ++ styled mode .bold "Violations" ++ countMark violations.length, ""] ++
      String.join (violations.map (violationText mode)) ++ line ""

/-- The skipped files. -/
def skippedText (mode : ColorMode) (skipped : List String) : String :=
  if skipped.isEmpty then ""
  else
    line ("  " ++ styled mode .dimmed "Skipped" ++ countMark skipped.length) ++
      lines (skipped.map fun file => "    " ++ styled mode .dimmed file) ++ line ""

/-- The number of violations of each rule. -/
def breakdownText (mode : ColorMode) (breakdown : List BreakdownEntry) : String :=
  if breakdown.isEmpty then ""
  else
    line ("  " ++ styled mode .bold "Breakdown:") ++
      lines (breakdown.map fun entry =>
        "    " ++ padded 28 entry.rule ++ " " ++ Decimal.intText entry.violations ++
          " violation" ++ (if entry.violations = 1 then "" else "s")) ++
      line ""

/-- Whether the check passed. -/
def statusText (mode : ColorMode) (r : Report) : String :=
  let status := if r.passed then styled mode .green "PASSED" else styled mode .red "FAILED"
  let files := styled mode .dimmed ("Files: " ++ Decimal.intText r.filesScanned)
  lines ["  " ++ files ++ "  " ++ status, ""]

/-- The report as people read it. -/
def terminalText (mode : ColorMode) (r : Report) : String :=
  r.headerText mode ++ failuresText mode r.ruleFailures ++ violationsText mode r.violations ++
    skippedText mode r.skipped ++ breakdownText mode r.breakdown ++ r.statusText mode

end RuleMetrics.Report
