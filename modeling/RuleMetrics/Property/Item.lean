import RuleMetrics.Decimal.Reading
import RuleMetrics.Property.Namespace
import RuleMetrics.Property.Value
import RuleMetrics.Registry.Signature

/-!
# How items are read, written and checked

Each kind of item has a format: it is read from a text, written so that reading gives it back, and
checked against the limits of its property.  Reading and checking are separate steps, since an
item can be well formed and still not be allowed.

A whole value is read from one text or from a list of texts.  The text of a multi-valued property
is split at its delimiter and blank pieces are skipped.
-/

namespace RuleMetrics

/-! ## Problems of items -/

/-- Why an item is not allowed. -/
inductive ItemProblem where
  /-- The item, of kind `kind` and written as `text`, belongs to the type `owner`. -/
  | illegalNamespace (kind : PropertyKind) (text : String) (owner : String) (legal : List String)
  | outOfRange (text : String) (min : String) (max : String)
  | containsDelimiter (text : String) (delimiter : Char)
  | wrongKind (expected : PropertyKind) (actual : PropertyKind)
deriving Repr, DecidableEq

/-- The wording of a problem. -/
def ItemProblem.message : ItemProblem → String
  | illegalNamespace kind text owner legal =>
    kind.name ++ " " ++ text ++ ": type " ++ owner ++ " is not in a legal namespace (allowed: " ++
      Text.join ", " legal ++ ")"
  | outOfRange text min max =>
    "value " ++ text ++ " is outside the range [" ++ min ++ ", " ++ max ++ "]"
  | containsDelimiter text delimiter =>
    "value " ++ Text.quote text ++ " contains the delimiter " ++ Text.quoteChar delimiter
  | wrongKind expected actual =>
    "expected a " ++ expected.name ++ " value, got a " ++ actual.name ++ " value"

/-- The problem of an item whose type is not legal. -/
def LegalNamespaces.problem (n : LegalNamespaces) (kind : PropertyKind) (text owner : String) :
    Option ItemProblem :=
  if n.allows owner then none else some (.illegalNamespace kind text owner n.prefixes)

/-! ## Formats -/

/-- How items of type `α` are read, written and checked. -/
structure ItemFormat (α : Type) where
  read : String → Except ReadError α
  write : α → String
  problem : α → Option ItemProblem

namespace ItemFormat

/-- Integers between two bounds. -/
def integer (min max : Int) : ItemFormat Int where
  read text :=
    let trimmed := Text.trim text
    match Decimal.readInt? trimmed with
    | some n => .ok n
    | none => .error (.invalidValue trimmed .integer)
  write := Decimal.intText
  problem n :=
    if n < min ∨ max < n then
      some (.outOfRange (Decimal.intText n) (Decimal.intText min) (Decimal.intText max))
    else none

/-- Finite floating-point numbers between two bounds. -/
def float (min max : Float) : ItemFormat Float where
  read text :=
    let trimmed := Text.trim text
    match Decimal.readFloat? trimmed with
    | some x => if Decimal.isFinite x then .ok x else .error (.invalidValue trimmed .number)
    | none => .error (.invalidValue trimmed .number)
  write := Decimal.floatText
  problem x :=
    if Decimal.below x min || Decimal.below max x then
      some (.outOfRange (Decimal.floatText x) (Decimal.floatText min) (Decimal.floatText max))
    else none

/-- Truth values, in any case. -/
def boolean : ItemFormat Bool where
  read text :=
    let trimmed := Text.trim text
    match trimmed.toList.map Char.toLower with
    | ['t', 'r', 'u', 'e'] => .ok true
    | ['f', 'a', 'l', 's', 'e'] => .ok false
    | _ => .error (.invalidValue trimmed .boolean)
  write b := if b then "true" else "false"
  problem _ := none

/-- Free text.  In a multi-valued property it may not contain the delimiter. -/
def text (delimiter : Option Char) : ItemFormat String where
  read text := .ok text
  write text := text
  problem text :=
    match delimiter with
    | some d => if d ∈ text.toList then some (.containsDelimiter text d) else none
    | none => none

/-- Methods of a registry whose declaring type is legal. -/
def method (registry : Registry) (legal : LegalNamespaces) : ItemFormat MethodSignature where
  read := registry.readSignature
  write := registry.signatureText
  problem m :=
    legal.problem .method (registry.signatureText m) (registry.qualifiedName m.declaringType)

/-- Types of a registry.  An array is legal when its element type is. -/
def type (registry : Registry) (legal : LegalNamespaces) : ItemFormat TypeUsage where
  read := registry.resolveUsage
  write := registry.usageText
  problem usage :=
    legal.problem .type (registry.usageText usage) (registry.qualifiedName usage.base)

/-! ## Values -/

variable {α : Type}

/-- Read the texts that are not blank, each as one item. -/
def readAll (f : ItemFormat α) (texts : List String) : Except ReadError (PropertyValue α) :=
  ((texts.filter fun t => !Text.isBlankText t).mapM f.read).map PropertyValue.multi

/-- Read a value from one text, which is split if there is a delimiter. -/
def readText (f : ItemFormat α) (delimiter : Option Char) (text : String) :
    Except ReadError (PropertyValue α) :=
  match delimiter with
  | some d => f.readAll (Text.piecesOf d text)
  | none =>
    if Text.isBlankText text then .ok .absent
    else (f.read text).map PropertyValue.single

/-- Read a value from items that are not split again.  Without a delimiter there may be one at
most. -/
def readItems (f : ItemFormat α) (delimiter : Option Char) (texts : List String) :
    Except ReadError (PropertyValue α) :=
  match delimiter with
  | some _ => f.readAll texts
  | none =>
    match texts with
    | [] => .ok .absent
    | [text] => f.readText none text
    | several => .error (.invalidFormat (Text.join ", " several) .severalItems)

/-- Write a value: its items with the delimiter between them. -/
def writeValue (f : ItemFormat α) (delimiter : Char) (v : PropertyValue α) : String :=
  Text.join delimiter.toString (v.items.map f.write)

/-- The problem of the first item that is not allowed. -/
def valueProblem (f : ItemFormat α) (v : PropertyValue α) : Option ItemProblem :=
  v.items.findSome? f.problem

end ItemFormat

end RuleMetrics
