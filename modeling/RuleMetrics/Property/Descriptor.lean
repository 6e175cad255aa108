import RuleMetrics.Property.Item
import RuleMetrics.Text.Alphanumeric

/-!
# Property descriptors

A descriptor says what a property is: its name and description, its place in the display, whether
it holds several items and what stands between them, its default, and the limits of its items.
There is one constructor for each kind, and `TypedValue` has the matching values.

A delimiter must be told apart from the items that it separates.  So it may not be alphanumeric,
nor one of the characters that the kind's items are written with.
-/

namespace RuleMetrics

/-- What descriptors of every kind have. -/
structure PropertyInfo where
  name : String
  description : String
  displayOrder : Float32
  /-- The character between items, of a multi-valued property. -/
  delimiter : Option Char

namespace PropertyInfo

/-- Whether the property holds a list of items. -/
def isMultiValued (info : PropertyInfo) : Bool :=
  info.delimiter.isSome

/-- The character between written items. -/
def writtenDelimiter (info : PropertyInfo) : Char :=
  info.delimiter.getD ' '

end PropertyInfo

/-- A property of one of the six kinds. -/
inductive Descriptor where
  | integer (info : PropertyInfo) (default : PropertyValue Int) (min max : Int)
  | float (info : PropertyInfo) (default : PropertyValue Float) (min max : Float)
  | boolean (info : PropertyInfo) (default : PropertyValue Bool)
  | text (info : PropertyInfo) (default : PropertyValue String)
  | method (info : PropertyInfo) (default : PropertyValue MethodSignature) (registry : Registry)
      (legal : LegalNamespaces)
  | type (info : PropertyInfo) (default : PropertyValue TypeUsage) (registry : Registry)
      (legal : LegalNamespaces)

/-- A value of one of the six kinds. -/
inductive TypedValue where
  | integer (value : PropertyValue Int)
  | float (value : PropertyValue Float)
  | boolean (value : PropertyValue Bool)
  | text (value : PropertyValue String)
  | method (value : PropertyValue MethodSignature)
  | type (value : PropertyValue TypeUsage)
deriving BEq

namespace TypedValue

/-- The kind of a value. -/
def kind : TypedValue → PropertyKind
  | integer _ => .integer
  | float _ => .float
  | boolean _ => .boolean
  | text _ => .text
  | method _ => .method
  | type _ => .type

/-- Whether there is no value. -/
def isAbsent : TypedValue → Bool
  | integer v => v.isAbsent
  | float v => v.isAbsent
  | boolean v => v.isAbsent
  | text v => v.isAbsent
  | method v => v.isAbsent
  | type v => v.isAbsent

end TypedValue

/-- The delimiter of a property can occur inside its items. -/
structure DelimiterConflict where
  property : String
  delimiter : Char
deriving Repr, DecidableEq

/-- The wording of a conflict. -/
def DelimiterConflict.message (c : DelimiterConflict) : String :=
  "delimiter " ++ Text.quoteChar c.delimiter ++ " of property " ++ Text.quote c.property ++
    " is reserved by its value syntax"

namespace Descriptor

/-- What descriptors of every kind have. -/
def info : Descriptor → PropertyInfo
  | integer info .. => info
  | float info .. => info
  | boolean info .. => info
  | text info .. => info
  | method info .. => info
  | type info .. => info

/-- The name of the property. -/
def name (d : Descriptor) : String :=
  d.info.name

/-- The kind of the property. -/
def kind : Descriptor → PropertyKind
  | integer .. => .integer
  | float .. => .float
  | boolean .. => .boolean
  | text .. => .text
  | method .. => .method
  | type .. => .type

/-- The value of a property that is not configured. -/
def default : Descriptor → TypedValue
  | integer _ v .. => .integer v
  | float _ v .. => .float v
  | boolean _ v => .boolean v
  | text _ v => .text v
  | method _ v .. => .method v
  | type _ v .. => .type v

/-- The namespaces that a property is limited to, if it is limited. -/
def legalNamespaces : Descriptor → Option LegalNamespaces
  | method _ _ _ legal => if legal.isUnconstrained then none else some legal
  | type _ _ _ legal => if legal.isUnconstrained then none else some legal
  | _ => none

/-! ## Delimiters -/

/-- The characters other than letters and digits that items of a kind are written with. -/
def reserved : PropertyKind → List Char
  | .integer => ['-', '+', '.']
  | .float => ['-', '+', '.']
  | .boolean => []
  | .text => []
  | .method => ['#', ',', '(', ')', '[', ']', '.', '_', '$']
  | .type => ['[', ']', '.', '_', '$']

/-- Whether a character can separate items of a kind. -/
def separates (kind : PropertyKind) (delimiter : Char) : Bool :=
  !Text.isAlphanumeric delimiter && !(reserved kind).contains delimiter

/-- A descriptor, if its delimiter can separate its items. -/
def checked (d : Descriptor) : Except DelimiterConflict Descriptor :=
  match d.info.delimiter with
  | none => .ok d
  | some delimiter =>
    if separates d.kind delimiter then .ok d else .error ⟨d.name, delimiter⟩

/-! ## Values -/

/-- Read a value from one text. -/
def readText (d : Descriptor) (text : String) : Except ReadError TypedValue :=
  let delimiter := d.info.delimiter
  match d with
  | integer _ _ min max =>
    ((ItemFormat.integer min max).readText delimiter text).map TypedValue.integer
  | float _ _ min max => ((ItemFormat.float min max).readText delimiter text).map TypedValue.float
  | boolean .. => (ItemFormat.boolean.readText delimiter text).map TypedValue.boolean
  | .text .. => ((ItemFormat.text delimiter).readText delimiter text).map TypedValue.text
  | method _ _ registry legal =>
    ((ItemFormat.method registry legal).readText delimiter text).map TypedValue.method
  | type _ _ registry legal =>
    ((ItemFormat.type registry legal).readText delimiter text).map TypedValue.type

/-- Read a value from items that are not split again. -/
def readItems (d : Descriptor) (texts : List String) : Except ReadError TypedValue :=
  let delimiter := d.info.delimiter
  match d with
  | integer _ _ min max =>
    ((ItemFormat.integer min max).readItems delimiter texts).map TypedValue.integer
  | float _ _ min max =>
    ((ItemFormat.float min max).readItems delimiter texts).map TypedValue.float
  | boolean .. => (ItemFormat.boolean.readItems delimiter texts).map TypedValue.boolean
  | .text .. => ((ItemFormat.text delimiter).readItems delimiter texts).map TypedValue.text
  | method _ _ registry legal =>
    ((ItemFormat.method registry legal).readItems delimiter texts).map TypedValue.method
  | type _ _ registry legal =>
    ((ItemFormat.type registry legal).readItems delimiter texts).map TypedValue.type

/-- Write a value of the descriptor's kind. -/
def write (d : Descriptor) (v : TypedValue) : Option String :=
  let delimiter := d.info.writtenDelimiter
  match d, v with
  | integer _ _ min max, .integer v => some ((ItemFormat.integer min max).writeValue delimiter v)
  | float _ _ min max, .float v => some ((ItemFormat.float min max).writeValue delimiter v)
  | boolean .., .boolean v => some (ItemFormat.boolean.writeValue delimiter v)
  | .text info _, .text v => some ((ItemFormat.text info.delimiter).writeValue delimiter v)
  | method _ _ registry legal, .method v =>
    some ((ItemFormat.method registry legal).writeValue delimiter v)
  | type _ _ registry legal, .type v =>
    some ((ItemFormat.type registry legal).writeValue delimiter v)
  | _, _ => none

/-- Why a value is not allowed, if it is not. -/
def problem (d : Descriptor) (v : TypedValue) : Option ItemProblem :=
  match d, v with
  | integer _ _ min max, .integer v => (ItemFormat.integer min max).valueProblem v
  | float _ _ min max, .float v => (ItemFormat.float min max).valueProblem v
  | boolean .., .boolean v => ItemFormat.boolean.valueProblem v
  | .text info _, .text v => (ItemFormat.text info.delimiter).valueProblem v
  | method _ _ registry legal, .method v => (ItemFormat.method registry legal).valueProblem v
  | type _ _ registry legal, .type v => (ItemFormat.type registry legal).valueProblem v
  | d, v => some (.wrongKind d.kind v.kind)

end Descriptor

end RuleMetrics
