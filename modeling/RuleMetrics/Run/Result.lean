import RuleMetrics.Document.Form
import RuleMetrics.Rule.Basic
import RuleMetrics.Text.Table

/-!
# Results of a run

The violations that a run found, how many files it scanned, and which it had to skip.
-/

namespace RuleMetrics

/-- A violation in a file. -/
structure ReportedViolation where
  rule : String
  file : String
  /-- The line, counted from one, or zero if it is not known. -/
  line : Nat
  message : String
  parameters : List String
  severity : Severity
deriving Repr, DecidableEq

/-- What a run found. -/
structure RunResult where
  violations : List ReportedViolation
  /-- The number of files that were scanned. -/
  scanned : Nat
  /-- The files that could not be read or measured. -/
  skipped : List String
deriving Repr, DecidableEq

/-- Whether a violation is reported before another or level with it: by file, line and rule. -/
def ReportedViolation.reportedBefore (a b : ReportedViolation) : Bool :=
  decide (a.file < b.file) ||
    (a.file == b.file &&
      (decide (a.line < b.line) || (a.line == b.line && decide (a.rule ≤ b.rule))))

namespace RunResult

/-- The result in the order of the report.  Violations that are level keep their order. -/
def sorted (r : RunResult) : RunResult :=
  { r with
    violations := r.violations.mergeSort ReportedViolation.reportedBefore
    skipped := r.skipped.mergeSort fun a b => decide (a ≤ b) }

/-- Whether there is no violation. -/
def isClean (r : RunResult) : Bool :=
  r.violations.isEmpty

/-- The number of violations of each rule that has any, in the order of the rules' names. -/
def countsByRule (r : RunResult) : List (String × Nat) :=
  (Text.Table.counts (r.violations.map ReportedViolation.rule)).entries

end RunResult

/-! ## Reading -/

open DocumentForm

variable {N : Type} [DocumentForm N]

/-- Read a violation. -/
def ReportedViolation.read (n : N) : Reading ReportedViolation := do
  let entries ← readFields ["rule", "file", "line", "message", "parameters", "severity"] n
  return {
    rule := ← field entries "rule" readText
    file := ← field entries "file" readText
    line := ← field entries "line" readCount
    message := ← field entries "message" readText
    parameters := ← field entries "parameters" (readList readText)
    severity := ← field entries "severity" (readChoice Severity.ofName?) }

/-- Read a result. -/
def RunResult.read (n : N) : Reading RunResult := do
  let entries ← readFields ["violations", "scanned", "skipped"] n
  return {
    violations := ← field entries "violations" (readList ReportedViolation.read)
    scanned := ← field entries "scanned" readCount
    skipped := ← fieldOr entries "skipped" [] (readList readText) }

end RuleMetrics
