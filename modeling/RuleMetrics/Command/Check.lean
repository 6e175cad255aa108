import RuleMetrics.Command.Response
import RuleMetrics.Report.Terminal
import RuleMetrics.RuleSet.Reading
import RuleMetrics.Run.Runner

/-!
# Checking files

The command that runs a rule set over a file or a directory and prints a report.  The rule set is
the one that is named, or one in the working directory, or else all built-in rules.
-/

namespace RuleMetrics.Check

/-- The files in which a rule set is looked for. -/
def rulesetNames : List String :=
  ["rulecore.yaml", ".rulecore.yaml"]

/-- The path of the rule set, if there is one. -/
def rulesetPath? (fs : FileSystem) (named : Option String) : Option String :=
  match named with
  | some path => some path
  | none => rulesetNames.find? fs.contains

/-- The rule set at a path, or the built-in one. -/
def loadRuleset (fs : FileSystem) : Option String → Except DocumentError RuleSet
  | some path => readFrom fs RuleSet.ofYaml path
  | none => .ok .builtin

/-- The files to check at a place: the files below a directory that some rule handles, or the file
itself. -/
def filesAt (fs : FileSystem) (rules : List ConfiguredRule) (place : List String) : List String :=
  match fs.root.at? place with
  | some (.directory entries) =>
    let extensions := rules.flatMap fun rule => rule.rule.extensions
    ((FileTree.directory entries).collectFiles extensions).map fun below =>
      FileSystem.absolutePath (place ++ below)
  | _ => [FileSystem.absolutePath place]

/-- How a check ended. -/
def outcome (loaded : LoadReport) (result : RunResult) : Outcome :=
  if !loaded.isClean then .error
  else if result.isClean then .success
  else .failed

/-- Run loaded rules at a place and print the report. -/
def report (fs : FileSystem) (mode : ColorMode) (json : Bool) (path ruleset : String)
    (loaded : LoadReport) (exclusions : Exclusions) (place : List String) : Response :=
  let files := filesAt fs loaded.rules place
  let runner : Runner := ⟨FilePath.ofString (FileSystem.absolutePath place), exclusions⟩
  let result :=
    runner.run loaded.rules (fun p => fs.read p.toString) (files.map FilePath.ofString)
  let report := Report.ofResult path ruleset result loaded.failures
  { outcome := outcome loaded result
    output := if json then report.jsonText else report.terminalText mode
    errors := if files.isEmpty then "Warning: no files to scan\n" else ""
    files := fs }

/-- Check a path. -/
def run (fs : FileSystem) (mode : ColorMode) (path : String) (ruleset : Option String)
    (format : String) (catalog : Option String) : Response :=
  if format ≠ "pretty" ∧ format ≠ "json" then
    .rejected fs
      ("Error: invalid format " ++ Text.quote format ++ ", must be 'pretty' or 'json'\n")
  else
    withRegistry fs catalog fun registry =>
      let source := rulesetPath? fs ruleset
      match loadRuleset fs source with
      | .error e => .rejected fs ("Error parsing rule set: " ++ e.message ++ "\n")
      | .ok rules =>
        match rules.exclusions with
        | .error e => .rejected fs ("Error: invalid rule set: " ++ e.message ++ "\n")
        | .ok exclusions =>
          let loaded := rules.load registry
          match fs.resolve path with
          | .error e =>
            .rejected fs
              ("Error: cannot access path " ++ Text.quotePath path ++ ": " ++ e.message ++ "\n")
          | .ok place =>
            report fs mode (format = "json") path (source.getD "(built-in rules)") loaded
              exclusions place

end RuleMetrics.Check
