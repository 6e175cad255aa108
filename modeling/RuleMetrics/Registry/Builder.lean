import RuleMetrics.Registry.Usage

/-!
# Building a registry

Types are declared one after the other, parents first, and aliases and methods are added to them.
An alias names one type for good.  `Builder.build` freezes the tables: it fails when an alias is
also the qualified name of another type, since the name would then have two meanings, and it gives
each type its short name.

The short name of a type is the least of those of its aliases that are shorter than its qualified
name, by length in bytes and then in byte order.
-/

namespace RuleMetrics

/-- What is wrong with the text of a method in a catalog. -/
inductive MethodFault where
  | missingOpening
  | missingClosing
  | missingName
  | parameter (error : ReadError)
deriving Repr, DecidableEq

/-- The wording of a fault. -/
def MethodFault.reason : MethodFault → String
  | missingOpening => "missing '('"
  | missingClosing => "missing ')'"
  | missingName => "missing method name"
  | parameter error => error.message

/-- Why a registry cannot be built. -/
inductive RegistryError where
  | duplicateType (name : String)
  | unknownParent (child : String) (parent : String)
  /-- The alias is taken by `existing`. -/
  | aliasConflict (name : String) (existing : String)
  | invalidMethod (owner : String) (text : String) (fault : MethodFault)
deriving Repr, DecidableEq

/-- The wording of an error. -/
def RegistryError.message : RegistryError → String
  | duplicateType name => "type " ++ Text.quote name ++ " is declared twice"
  | unknownParent child parent =>
    "type " ++ Text.quote child ++ " names undeclared parent " ++ Text.quote parent
  | aliasConflict name existing =>
    "alias " ++ Text.quote name ++ " already names " ++ Text.quote existing
  | invalidMethod owner text fault =>
    "type catalog: " ++ owner ++ ": method " ++ Text.quote text ++ ": " ++ fault.reason

/-! ## Freezing the tables -/

/-- Whether an alias is the qualified name of another type than its own. -/
def shadows (types : List TypeDeclaration) (entry : String × TypeId) : Bool :=
  match findQualified types entry.1 with
  | some named => named != entry.2
  | none => false

/-- Whether a name comes before another: it is shorter in bytes, or of the same length and before it
in byte order. -/
def precedes (name other : String) : Bool :=
  decide (name.utf8ByteSize < other.utf8ByteSize) ||
    (name.utf8ByteSize == other.utf8ByteSize && decide (name < other))

/-- The short name of a type after one more alias of it was seen. -/
def betterShortName (qualifiedName : String) (best : Option String) (name : String) :
    Option String :=
  match best with
  | some current => if precedes name current then some name else best
  | none => if name.utf8ByteSize < qualifiedName.utf8ByteSize then some name else none

/-- The short name of the type `id`, found by going through the aliases once. -/
def shortNameIn (aliases : AliasTable) (id : TypeId) (qualifiedName : String) : Option String :=
  aliases.foldl
    (fun best entry => if entry.2 = id then betterShortName qualifiedName best entry.1 else best)
    none

/-- The registry of these types, with the aliases enumerated in any order. -/
def Registry.ofTables (types : List TypeDeclaration) (aliases : AliasTable) :
    Except RegistryError Registry :=
  match aliases.find? (shadows types) with
  | some entry => .error (.aliasConflict entry.1 entry.1)
  | none =>
    .ok {
      types
      aliases := aliases.mergeSort fun a b => decide (a.1 ≤ b.1)
      shortNames := types.mapIdx fun i t => shortNameIn aliases ⟨i⟩ t.qualifiedName
    }

/-! ## The builder -/

/-- A registry under construction. -/
structure Builder where
  types : List TypeDeclaration
  aliases : AliasTable
deriving Repr, DecidableEq

namespace Builder

/-- Nothing declared yet. -/
def empty : Builder := ⟨[], []⟩

/-- The type that a name means so far. -/
def lookup (b : Builder) (name : String) : Option TypeId :=
  findNamed b.types b.aliases name

/-- The type usage that a text means so far. -/
def resolveUsage (b : Builder) (text : String) : Except ReadError TypeUsage :=
  TypeUsage.read b.lookup text

/-- Declare a type, with the name of its parent if it has one. -/
def declare (b : Builder) (name : String) (parent : Option String) :
    Except RegistryError (TypeId × Builder) :=
  if (findQualified b.types name).isSome then .error (.duplicateType name)
  else
    let add (parentId : Option TypeId) : TypeId × Builder :=
      (⟨b.types.length⟩, { b with types := b.types ++ [⟨name, parentId, []⟩] })
    match parent with
    | none => .ok (add none)
    | some parentName =>
      match b.lookup parentName with
      | some id => .ok (add (some id))
      | none => .error (.unknownParent name parentName)

/-- Name a declared type by an alias. -/
def addAlias (b : Builder) (name : String) (id : TypeId) : Except RegistryError Builder :=
  match b.aliases.lookup name with
  | none => .ok { b with aliases := b.aliases ++ [(name, id)] }
  | some existing =>
    if existing = id then .ok b
    else
      let taken := b.types[existing.index]?.elim "<unknown>" TypeDeclaration.qualifiedName
      .error (.aliasConflict name taken)

/-- Declare a method directly on a type. -/
def addMethod (b : Builder) (owner : TypeId) (method : MethodDeclaration) : Builder :=
  { b with
    types := b.types.modify owner.index fun t => { t with methods := t.methods ++ [method] } }

/-- Freeze the registry. -/
def build (b : Builder) : Except RegistryError Registry :=
  Registry.ofTables b.types b.aliases

end Builder

end RuleMetrics
