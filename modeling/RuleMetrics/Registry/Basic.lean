/-!
# Types and their names

A registry knows a fixed list of types.  Each has a qualified name, perhaps a parent, and the
methods declared directly on it; a table of aliases gives further names.  A name means the type
that it is an alias of, or else the type that it is the qualified name of.

A type is named by its place in the list.  The place is a natural number and stands for one of 32
bits: a registry has fewer than `2 ^ 32` types.  `Registry.ancestors` walks from a type to its
parent, the parent's parent and so on; a parent stands before its children, so the walk ends.
-/

namespace RuleMetrics

/-- A type of a registry, by its place. -/
structure TypeId where
  index : Nat
deriving Repr, DecidableEq

/-- A use of a type: a type, or an array of some dimensions over it. -/
structure TypeUsage where
  base : TypeId
  dimensions : Nat
deriving Repr, DecidableEq

/-- A method declared directly on a type. -/
structure MethodDeclaration where
  name : String
  parameters : List TypeUsage
deriving Repr, DecidableEq

/-- A declared type. -/
structure TypeDeclaration where
  qualifiedName : String
  parent : Option TypeId
  methods : List MethodDeclaration
deriving Repr, DecidableEq

/-- Further names of types.  No alias occurs twice. -/
abbrev AliasTable := List (String × TypeId)

/-- The type with a qualified name. -/
def findQualified (types : List TypeDeclaration) (name : String) : Option TypeId :=
  (types.findIdx? fun t => t.qualifiedName == name).map TypeId.mk

/-- The type that a name means.  An alias comes before a qualified name. -/
def findNamed (types : List TypeDeclaration) (aliases : AliasTable) (name : String) :
    Option TypeId :=
  match aliases.lookup name with
  | some id => some id
  | none => findQualified types name

/-- Types, their aliases in ascending order, and for each type its short name if it has one. -/
structure Registry where
  types : List TypeDeclaration
  aliases : AliasTable
  shortNames : List (Option String)
deriving Repr, DecidableEq

namespace Registry

/-- The number of types. -/
def size (r : Registry) : Nat :=
  r.types.length

/-- The type that a name means. -/
def resolve (r : Registry) (name : String) : Option TypeId :=
  findNamed r.types r.aliases name

/-- The declaration of a type, if the registry has it. -/
def declaration? (r : Registry) (id : TypeId) : Option TypeDeclaration :=
  r.types[id.index]?

/-! ## Names of types -/

/-- The qualified name of a type. -/
def qualifiedName (r : Registry) (id : TypeId) : String :=
  match r.declaration? id with
  | some t => t.qualifiedName
  | none => "<unknown>"

/-- The name that a type is shown by: its short name, or else its qualified name. -/
def shortName (r : Registry) (id : TypeId) : String :=
  match r.shortNames[id.index]? with
  | some (some name) => name
  | _ => r.qualifiedName id

/-- The short name of the type with this qualified name, or the given text. -/
def shortNameFor (r : Registry) (qualified : String) : String :=
  match findQualified r.types qualified with
  | some id => r.shortName id
  | none => qualified

/-- A use of a type in words: the short name and one pair of brackets for each dimension. -/
def usageText (r : Registry) (usage : TypeUsage) : String :=
  r.shortName usage.base ++ String.join (List.replicate usage.dimensions "[]")

/-- The aliases in ascending order, each with the qualified name of its type. -/
def aliasNames (r : Registry) : List (String × String) :=
  r.aliases.map fun entry => (entry.1, r.qualifiedName entry.2)

/-! ## Ancestors and methods -/

/-- A type, its parent, and so on to a type without one. -/
def ancestors (r : Registry) (id : TypeId) : List TypeId :=
  match r.declaration? id with
  | none => []
  | some t =>
    match t.parent with
    | none => [id]
    | some parent =>
      if parent.index < id.index then id :: r.ancestors parent else [id]
termination_by id.index

/-- Whether a type itself declares a method with this name and these parameters. -/
def declares (r : Registry) (id : TypeId) (name : String) (parameters : List TypeUsage) : Bool :=
  match r.declaration? id with
  | some t => t.methods.any fun m => m.name == name && m.parameters == parameters
  | none => false

/-- The first type from `owner` upwards that declares the method. -/
def findMethod (r : Registry) (owner : TypeId) (name : String) (parameters : List TypeUsage) :
    Option TypeId :=
  (r.ancestors owner).find? fun id => r.declares id name parameters

end Registry

end RuleMetrics
