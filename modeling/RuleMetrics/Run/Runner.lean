import RuleMetrics.File.System
import RuleMetrics.RuleSet.Basic
import RuleMetrics.Run.Result

/-!
# Running rules over files

Each file is looked at by itself, so the order of the files does not matter for what becomes of
any of them.  A file that cannot be read, or that one of its rules cannot measure, is skipped and
has no violations.  A file that is excluded, or that no rule handles, does not count at all.
-/

namespace RuleMetrics

/-- What became of a file. -/
inductive FileOutcome where
  /-- The file is excluded, or no rule handles it. -/
  | ignored
  | scanned (violations : List ReportedViolation)
  /-- The file could not be read or measured. -/
  | skipped (file : String)
deriving Repr, DecidableEq

namespace FileOutcome

/-- The violations of a file. -/
def violations : FileOutcome → List ReportedViolation
  | scanned violations => violations
  | _ => []

/-- Whether a file was scanned. -/
def isScanned : FileOutcome → Bool
  | scanned _ => true
  | _ => false

/-- The file, if it was skipped. -/
def skipped? : FileOutcome → Option String
  | skipped file => some file
  | _ => none

end FileOutcome

/-- The result of what became of the files. -/
def RunResult.ofOutcomes (outcomes : List FileOutcome) : RunResult :=
  RunResult.sorted
    { violations := outcomes.flatMap FileOutcome.violations
      scanned := outcomes.countP FileOutcome.isScanned
      skipped := outcomes.filterMap FileOutcome.skipped? }

/-- Where reported paths start, and which paths are left out. -/
structure Runner where
  base : FilePath
  exclusions : Exclusions

namespace Runner

/-- Whether a file is left out, by its path from the base or by its whole path. -/
def excludes (r : Runner) (path : FilePath) : Bool :=
  r.exclusions.excludes ((path.relativeTo? r.base).getD path).toString ||
    r.exclusions.excludes path.toString

/-- The path that a file is reported under: from the base with slashes, the bare name if the file is
the base, or the whole path if it does not lie below the base. -/
def displayPath (r : Runner) (path : FilePath) : String :=
  if path.components = r.base.components then path.fileName?.getD path.toString
  else
    match path.relativeTo? r.base with
    | some relative => Text.join "/" (Text.piecesOf '\\' relative.toString)
    | none => path.toString

/-- The violations that a rule finds in a file. -/
def violationsOf (rule : ConfiguredRule) (file : String) (source : Source) :
    Except MeasureError (List ReportedViolation) := do
  let measurements ← rule.measure source
  return (rule.apply measurements).map fun v =>
    { rule := rule.name
      file
      line := ((measurements.label? v.node).map ScoreLabel.line).getD 0
      message := rule.message v
      parameters := v.parameters
      severity := rule.severity }

/-- What becomes of a file. -/
def outcome (r : Runner) (rules : List ConfiguredRule)
    (read : FilePath → Except FileError Source) (path : FilePath) : FileOutcome :=
  if r.excludes path then .ignored
  else
    match rules.filter fun rule => rule.rule.handles path.fileExtension with
    | [] => .ignored
    | applicable =>
      let file := r.displayPath path
      match read path with
      | .error _ => .skipped file
      | .ok source =>
        match applicable.mapM fun rule => violationsOf rule file source with
        | .error _ => .skipped file
        | .ok found => .scanned found.flatten

/-- Run rules over files. -/
def run (r : Runner) (rules : List ConfiguredRule) (read : FilePath → Except FileError Source)
    (files : List FilePath) : RunResult :=
  .ofOutcomes (files.map (r.outcome rules read))

end Runner

end RuleMetrics
