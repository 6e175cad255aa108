import RuleMetrics.Property.Descriptor

/-!
# Property sets

A property set holds the descriptors of a rule and the values configured for them.  Names of
descriptors are unique.  A value is stored only after it was read and found to be allowed, so a
failed configuration changes nothing.  Reading a property that was never stored gives its default.
-/

namespace RuleMetrics

/-- Why a property cannot be configured. -/
inductive ConfigureError where
  | unknownProperty (rule : String) (property : String)
  | unreadable (property : String) (cause : ReadError)
  | notAllowed (property : String) (cause : ItemProblem)
deriving Repr, DecidableEq

/-- The wording of an error. -/
def ConfigureError.message : ConfigureError → String
  | unknownProperty rule property =>
    "unknown property " ++ Text.quote property ++ " for rule " ++ Text.quote rule
  | unreadable property cause => "property " ++ Text.quote property ++ ": " ++ cause.message
  | notAllowed property cause => "property " ++ Text.quote property ++ ": " ++ cause.message

/-- A property of this name is defined already. -/
structure DuplicateProperty where
  name : String
deriving Repr, DecidableEq

/-- The wording of the error. -/
def DuplicateProperty.message (e : DuplicateProperty) : String :=
  "property " ++ Text.quote e.name ++ " is declared twice"

/-- The text or texts that a property is configured with. -/
inductive RawValue where
  | text (text : String)
  | items (texts : List String)
deriving Repr, DecidableEq

/-- Descriptors in the order of their definition, and the values stored for them. -/
structure PropertySet where
  /-- The rule that messages name. -/
  owner : String
  descriptors : List Descriptor
  stored : List (String × TypedValue)

namespace PropertySet

/-- No properties. -/
def empty (owner : String) : PropertySet := ⟨owner, [], []⟩

/-! ## Descriptors -/

/-- The descriptor with a name. -/
def descriptor? (s : PropertySet) (name : String) : Option Descriptor :=
  s.descriptors.find? fun d => d.name == name

/-- Add a descriptor with a new name. -/
def define (s : PropertySet) (d : Descriptor) : Except DuplicateProperty PropertySet :=
  if (s.descriptor? d.name).isSome then .error ⟨d.name⟩
  else .ok { s with descriptors := s.descriptors ++ [d] }

/-- Whether a descriptor is shown before another or level with it: by display order, then by
name. -/
def shownBefore (a b : Descriptor) : Bool :=
  let orderA := Decimal.totalKey32 a.info.displayOrder
  let orderB := Decimal.totalKey32 b.info.displayOrder
  decide (orderA < orderB) || (orderA == orderB && decide (a.name ≤ b.name))

/-- The descriptors in display order. -/
def inDisplayOrder (s : PropertySet) : List Descriptor :=
  s.descriptors.mergeSort shownBefore

/-! ## Configuration -/

/-- The stored values after one more was stored. -/
def insertStored (name : String) (v : TypedValue) :
    List (String × TypedValue) → List (String × TypedValue)
  | [] => [(name, v)]
  | entry :: rest =>
    if entry.1 = name then (name, v) :: rest else entry :: insertStored name v rest

/-- Read a raw value by a descriptor. -/
def readRaw (d : Descriptor) : RawValue → Except ReadError TypedValue
  | .text text => d.readText text
  | .items texts => d.readItems texts

/-- Read a raw value, check it, and store it. -/
def configure (s : PropertySet) (name : String) (raw : RawValue) :
    Except ConfigureError PropertySet :=
  match s.descriptor? name with
  | none => .error (.unknownProperty s.owner name)
  | some d =>
    match readRaw d raw with
    | .error cause => .error (.unreadable name cause)
    | .ok v =>
      match d.problem v with
      | some cause => .error (.notAllowed name cause)
      | none => .ok { s with stored := insertStored name v s.stored }

/-! ## Reading -/

/-- Whether a value other than none is stored. -/
def isConfigured (s : PropertySet) (name : String) : Bool :=
  match s.stored.lookup name with
  | some v => !v.isAbsent
  | none => false

/-- The stored value, or else the default. -/
def value? (s : PropertySet) (name : String) : Option TypedValue :=
  match s.stored.lookup name with
  | some v => some v
  | none => (s.descriptor? name).map Descriptor.default

/-- The first item of a numeric property. -/
def float? (s : PropertySet) (name : String) : Option Float :=
  match s.value? name with
  | some (.float v) => v.first?
  | some (.integer v) => v.first?.map Float.ofInt
  | _ => none

/-- The first item of an integer property. -/
def integer? (s : PropertySet) (name : String) : Option Int :=
  match s.value? name with
  | some (.integer v) => v.first?
  | _ => none

/-- The items of a method property. -/
def methods (s : PropertySet) (name : String) : List MethodSignature :=
  match s.value? name with
  | some (.method v) => v.items
  | _ => []

/-- The names of the properties with the texts of their values, in display order. -/
def texts (s : PropertySet) : List (String × String) :=
  s.inDisplayOrder.map fun d =>
    (d.name, ((s.value? d.name).bind d.write).getD "")

end PropertySet

end RuleMetrics
