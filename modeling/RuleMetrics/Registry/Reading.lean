import RuleMetrics.Registry.Catalog
import RuleMetrics.Yaml.Value

/-!
# Reading catalogs

The fields of a catalog and of its types, in whatever form of document they are written.
-/

namespace RuleMetrics

open DocumentForm

variable {N : Type} [DocumentForm N]

/-- Read a type of a catalog. -/
def CatalogEntry.read (n : N) : Reading CatalogEntry := do
  let entries ← readFields ["name", "parent", "aliases", "methods"] n
  return {
    name := ← field entries "name" readText
    parent := ← fieldOr entries "parent" none (readOptional readText)
    aliases := ← fieldOr entries "aliases" [] (readList readText)
    methods := ← fieldOr entries "methods" [] (readList readText) }

/-- Read a catalog. -/
def Catalog.read (n : N) : Reading Catalog := do
  let entries ← readFields ["types"] n
  return ⟨← fieldOr entries "types" [] (readList CatalogEntry.read)⟩

/-- Read a catalog that is written in YAML. -/
def Catalog.ofYaml (text : String) : Except (Yaml.YamlError ⊕ ShapeError) Catalog :=
  Yaml.readDocument Catalog.read text

end RuleMetrics
