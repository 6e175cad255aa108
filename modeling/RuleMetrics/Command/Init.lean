import RuleMetrics.Command.Response
import RuleMetrics.Report.Terminal

/-!
# Starting a rule set

The command that writes a rule set to start from.  It never replaces a file.
-/

namespace RuleMetrics.Init

open Report (line lines)

/-- The rule set to start from. -/
def template : String :=
  lines
    ["# rulecore rule set",
      "#",
      "# Each rule takes a fixed 'minimum' or a statistical 'sigma' threshold,",
      "# never both. 'topscore' limits a report to the highest scores.",
      "version: \"1.0\"",
      "name: \"java-defaults\"",
      "description: \"Constructor size checks for Java sources\"",
      "",
      "excluded_paths:",
      "  - \"**/generated/**\"",
      "",
      "rules:",
      "  - name: NcssConstructorCount",
      "    severity: warning",
      "    properties:",
      "      minimum: 100",
      "      ignoredCalls:",
      "        - \"java.util.Objects#requireNonNull(Object)\"",
      "        - \"java.util.Objects#requireNonNull(Object,String)\""]

/-- The file system with the directory that a file is to lie in. -/
def prepare (fs : FileSystem) (output : String) : Except FileError FileSystem :=
  match (FilePath.ofString output).parent? with
  | none => .ok fs
  | some parent =>
    if parent.components = [.here] then .ok fs
    else fs.makeDirectories (parent.withEnclosing.map FilePath.toString)

/-- Write the rule set to a path. -/
def run (fs : FileSystem) (output : String) : Response :=
  if fs.contains output then
    .rejected fs
      (lines
        ["Error: file already exists: " ++ output,
          "Remove it or use --output to specify a different path"])
  else
    match prepare fs output with
    | .error e => .rejected fs ("Error: failed to create directory: " ++ e.message ++ "\n")
    | .ok fs =>
      match fs.write output ⟨template.toUTF8, []⟩ with
      | .error e => .rejected fs ("Error: failed to write rule set: " ++ e.message ++ "\n")
      | .ok fs =>
        .printed fs .success
          (lines
            ["Created " ++ output, "", "Next steps:",
              "  1. Edit " ++ output ++ " to tune thresholds",
              "  2. Run: rulecore check . --ruleset " ++ output])

end RuleMetrics.Init
