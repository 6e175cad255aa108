import RuleMetrics.File.System
import RuleMetrics.Registry.JavaCatalog
import RuleMetrics.Registry.Reading
import RuleMetrics.Report.Style

/-!
# What a command answers

A command prints text, sets an exit code, and may change files.  Faults that end a command are
printed after `Error:`.
-/

namespace RuleMetrics

/-- How a command ended. -/
inductive Outcome where
  | success
  /-- The command ran and found something wrong. -/
  | failed
  /-- The command could not run. -/
  | error
deriving Repr, DecidableEq

/-- The exit code. -/
def Outcome.exitCode : Outcome → Nat
  | success => 0
  | failed => 1
  | error => 2

/-- What a command answers. -/
structure Response where
  outcome : Outcome
  output : String
  errors : String
  /-- The files after the command. -/
  files : FileSystem

namespace Response

/-- An answer that prints text and changes no file. -/
def printed (files : FileSystem) (outcome : Outcome) (output : String) : Response :=
  ⟨outcome, output, "", files⟩

/-- An answer of a command that could not run. -/
def rejected (files : FileSystem) (errors : String) : Response :=
  ⟨.error, "", errors, files⟩

end Response

/-- Why a document on the command line cannot be used. -/
inductive DocumentError where
  | file (error : FileError)
  | yaml (error : Yaml.YamlError)
  | shape (error : ShapeError)
deriving Repr, DecidableEq

/-- The wording of an error. -/
def DocumentError.message : DocumentError → String
  | file error => error.message
  | yaml error => error.message
  | shape error => error.message

/-- Read a document from a file. -/
def readFrom {α : Type} (fs : FileSystem)
    (read : String → Except (Yaml.YamlError ⊕ ShapeError) α) (path : String) :
    Except DocumentError α :=
  match fs.readText path with
  | .error e => .error (.file e)
  | .ok text =>
    match read text with
    | .ok a => .ok a
    | .error (.inl e) => .error (.yaml e)
    | .error (.inr e) => .error (.shape e)

/-- Why there is no registry. -/
inductive CatalogError where
  | document (error : DocumentError)
  | registry (error : RegistryError)
deriving Repr, DecidableEq

/-- The wording of an error. -/
def CatalogError.message : CatalogError → String
  | document error => error.message
  | registry error => error.message

/-- The registry of the catalog at a path, or the built-in one. -/
def loadRegistry (fs : FileSystem) (catalog : Option String) : Except CatalogError Registry :=
  match catalog with
  | none => builtinRegistry.mapError CatalogError.registry
  | some path =>
    match readFrom fs Catalog.ofYaml path with
    | .error e => .error (.document e)
    | .ok catalog => catalog.build.mapError CatalogError.registry

/-- Go on with a registry, or answer why there is none. -/
def withRegistry (fs : FileSystem) (catalog : Option String) (answer : Registry → Response) :
    Response :=
  match loadRegistry fs catalog with
  | .ok registry => answer registry
  | .error e => .rejected fs ("Error: " ++ e.message ++ "\n")

end RuleMetrics
