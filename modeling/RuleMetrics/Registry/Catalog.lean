import RuleMetrics.Registry.Builder
import RuleMetrics.Registry.Shortcut
import RuleMetrics.Text.Cut

/-!
# Type catalogs

A catalog lists types in order, each after its parent.  Its methods are written as
`name(type,type)`.  All types and aliases are declared before the first method is read, so a
method may speak of a type that comes later.  A type that lists no alias gets its well-known short
name, if it has one.
-/

namespace RuleMetrics

/-- A type in a catalog. -/
structure CatalogEntry where
  name : String
  parent : Option String
  aliases : List String
  methods : List String
deriving Repr, DecidableEq

/-- Types in the order of their declaration. -/
structure Catalog where
  entries : List CatalogEntry
deriving Repr, DecidableEq

namespace CatalogEntry

/-- The aliases that an entry declares: those it lists, or else its well-known short name. -/
def declaredAliases (entry : CatalogEntry) : List String :=
  match entry.aliases with
  | [] => (shortcutFor entry.name).toList
  | listed => listed

/-- Declare the type of an entry and its aliases. -/
def declare (b : Builder) (entry : CatalogEntry) : Except RegistryError (TypeId × Builder) := do
  let (id, b) ← b.declare entry.name entry.parent
  let b ← entry.declaredAliases.foldlM (fun b name => b.addAlias name id) b
  return (id, b)

/-- Read the text of a method. -/
def readMethod (b : Builder) (owner text : String) : Except RegistryError MethodDeclaration :=
  let fault (f : MethodFault) : RegistryError := .invalidMethod owner text f
  match Text.cut '(' (Text.trimChars text.toList) with
  | none => .error (fault .missingOpening)
  | some (before, rest) =>
    if rest.getLast? ≠ some ')' then .error (fault .missingClosing)
    else
      let arguments := rest.dropLast
      let name := Text.trimChars before
      if name = [] then .error (fault .missingName)
      else if Text.allBlank arguments then .ok ⟨String.ofList name, []⟩
      else
        match (Text.pieces ',' arguments).mapM fun a => b.resolveUsage (String.ofList a) with
        | .ok parameters => .ok ⟨String.ofList name, parameters⟩
        | .error e => .error (fault (.parameter e))

/-- Declare the methods of an entry on its type. -/
def declareMethods (b : Builder) (declared : TypeId × CatalogEntry) :
    Except RegistryError Builder :=
  declared.2.methods.foldlM
    (fun b text => return b.addMethod declared.1 (← readMethod b declared.2.name text)) b

end CatalogEntry

/-- Declare all types and aliases: the builder, and the entries with their types. -/
def Catalog.declareTypes (c : Catalog) :
    Except RegistryError (Builder × List (TypeId × CatalogEntry)) :=
  c.entries.foldlM
    (fun (state : Builder × List (TypeId × CatalogEntry)) entry => do
      let (id, b) ← entry.declare state.1
      return (b, state.2 ++ [(id, entry)]))
    (Builder.empty, [])

/-- The registry that a catalog describes. -/
def Catalog.build (c : Catalog) : Except RegistryError Registry := do
  let (b, declared) ← c.declareTypes
  let b ← declared.foldlM CatalogEntry.declareMethods b
  b.build

end RuleMetrics
