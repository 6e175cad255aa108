import RuleMetrics.RuleSet.Basic
import RuleMetrics.Yaml.Value

/-!
# Reading rule sets

The fields of a rule set and of its entries, in whatever form of document they are written.
-/

namespace RuleMetrics

open DocumentForm

variable {N : Type} [DocumentForm N]

/-- Read the properties of a rule.  Of two under one name the last counts. -/
def readProperties (n : N) : Reading (Text.Table DocumentValue) := do
  let entries ← readEntries n
  let values ← entries.mapM fun e => return (e.1, ← value e.2)
  return .ofList values

/-- Read a rule of a rule set. -/
def RuleEntry.read (n : N) : Reading RuleEntry := do
  let entries ← readFields ["name", "severity", "properties"] n
  return {
    name := ← field entries "name" readText
    severity := ← fieldOr entries "severity" none (readOptional (readChoice Severity.ofName?))
    properties := ← fieldOr entries "properties" .empty readProperties }

/-- Read a rule set. -/
def RuleSet.read (n : N) : Reading RuleSet := do
  let entries ← readFields ["version", "name", "description", "excluded_paths", "rules"] n
  return {
    version := ← fieldOr entries "version" "" readText
    name := ← fieldOr entries "name" "" readText
    description := ← fieldOr entries "description" none (readOptional readText)
    excludedPaths := ← fieldOr entries "excluded_paths" [] (readList readText)
    rules := ← fieldOr entries "rules" [] (readList RuleEntry.read) }

/-- Read a rule set that is written in YAML. -/
def RuleSet.ofYaml (text : String) : Except (Yaml.YamlError ⊕ ShapeError) RuleSet :=
  Yaml.readDocument RuleSet.read text

end RuleMetrics
