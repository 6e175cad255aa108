import RuleMetrics.Decimal.Reading
import RuleMetrics.Document.Form
import RuleMetrics.Yaml.Node

/-!
# Values of YAML nodes

A plain scalar is null, a truth value or a number if it is spelled like one, and a text otherwise;
a quoted scalar is a text.  A tag of YAML's own vocabulary forces the type, and an application's
own tag makes a tagged value.

Where a text is expected every scalar is taken by its text, whatever its spelling or tag.
-/

namespace RuleMetrics.Yaml

/-! ## Spellings of scalars -/

/-- Whether a plain scalar is spelled as null. -/
def isNullWord (s : String) : Bool :=
  ["null", "Null", "NULL", "~"].contains s

/-- The truth value that a plain scalar spells. -/
def readBool? (s : String) : Option Bool :=
  if ["true", "True", "TRUE"].contains s then some true
  else if ["false", "False", "FALSE"].contains s then some false
  else none

/-- The value of digits in a base of up to sixteen; none if there are no digits or others. -/
def readBase? (base : Nat) (digits : List Char) : Option Nat :=
  if digits.isEmpty then none
  else
    digits.foldlM
      (fun n c => (hexDigit? c).bind fun d => if d < base then some (base * n + d) else none) 0

/-- Whether digits start with a zero that is not the whole number.  They are a text. -/
def hasLeadingZero (digits : List Char) : Bool :=
  match digits with
  | '0' :: _ :: _ => digits.all Char.isDigit
  | _ => false

/-- The natural number that a text without a sign spells, in base ten or after `0x`, `0o` or
`0b`. -/
def readMagnitude? (cs : List Char) : Option Nat :=
  let marked : Option Nat :=
    match cs with
    | '0' :: 'x' :: digits => readBase? 16 digits
    | '0' :: 'o' :: digits => readBase? 8 digits
    | '0' :: 'b' :: digits => readBase? 2 digits
    | _ => none
  match marked with
  | some n => some n
  | none => if hasLeadingZero cs then none else readBase? 10 cs

/-- The integer that a plain scalar spells, if it fits in 128 bits. -/
def readInteger? (s : String) : Option Int :=
  let (negative, digits) := Decimal.splitSign s.toList
  match readMagnitude? digits with
  | none => none
  | some n =>
    if negative then if n ≤ Nat.pow 2 127 then some (-n) else none
    else if n < Nat.pow 2 128 then some n else none

/-- The floating-point number that a plain scalar spells.  The words for infinity and for what is
not a number start with a point, only the first of them can have a sign, and a number must be
finite. -/
def readReal? (s : String) : Option Float :=
  let cs := s.toList
  let unsigned :=
    match cs with
    | '+' :: rest => rest
    | all => all
  let infinities : List (List Char) := [".inf".toList, ".Inf".toList, ".INF".toList]
  if cs.head? == some '+' && (unsigned.head? == some '+' || unsigned.head? == some '-') then none
  else if infinities.contains unsigned then some (1.0 / 0.0)
  else if cs.head? == some '-' && infinities.contains cs.tail then some (-1.0 / 0.0)
  else if [".nan", ".NaN", ".NAN"].contains s then some (0.0 / 0.0)
  else
    match Decimal.readFloat? (String.ofList unsigned) with
    | some x => if Decimal.isFinite x then some x else none
    | none => none

/-- The value of an integer, which must fit in 64 bits with or without a sign. -/
def integerValue (n : Int) : Except ShapeError DocumentValue :=
  if Decimal.minInt64 ≤ n ∧ n < Decimal.wordCount then .ok (.integer n) else .error .numberTooLarge

/-- The value of a plain scalar without a tag. -/
def plainValue (s : String) : Except ShapeError DocumentValue :=
  if s = "" || isNullWord s then .ok .null
  else
    match readBool? s, readInteger? s with
    | some b, _ => .ok (.bool b)
    | none, some n => integerValue n
    | none, none =>
      if hasLeadingZero (Decimal.splitSign s.toList).2 then .ok (.text s)
      else
        match readReal? s with
        | some x => .ok (.float x)
        | none => .ok (.text s)

/-- A tag of YAML's own vocabulary. -/
def coreTag (name : String) : Tag :=
  ("tag:yaml.org,2002:" ++ name).toUTF8.toList

/-- The text of bytes, if they are one. -/
def textOfBytes? (bytes : List UInt8) : Option String :=
  String.fromUTF8? ⟨bytes.toArray⟩

/-- The name of an application's own tag.  Such a tag starts with an exclamation mark, which is the
name if nothing follows. -/
def ownTag? (tag : Option Tag) : Option String :=
  match tag with
  | some (0x21 :: name) => textOfBytes? (if name.isEmpty then [0x21] else name)
  | _ => none

/-- The value of a scalar under no tag or under an application's own. -/
def untaggedValue (plain : Bool) (s : String) : Except ShapeError DocumentValue :=
  if plain then plainValue s else .ok (.text s)

/-- The value of a scalar under a tag without its tag. -/
def taggedContent (tag : Tag) (plain : Bool) (s : String) : Except ShapeError DocumentValue :=
  if tag = coreTag "bool" then
    match readBool? s with
    | some b => .ok (.bool b)
    | none => .error .invalidTag
  else if tag = coreTag "int" then
    match readInteger? s with
    | some n => integerValue n
    | none => .error .invalidTag
  else if tag = coreTag "float" then
    match readReal? s with
    | some x => .ok (.float x)
    | none => .error .invalidTag
  else if tag = coreTag "null" then
    if isNullWord s then .ok .null else .error .invalidTag
  else if tag.head? = some 0x21 then untaggedValue plain s
  else .ok (.text s)

/-- A value under its application's own tag, if there is one.  A second exclamation mark at the
start of the tag does not count. -/
def underTag (tag : Option Tag) (v : DocumentValue) : DocumentValue :=
  match (ownTag? tag).map String.toList with
  | none => v
  | some ('!' :: c :: name) => .tagged (String.ofList (c :: name)) v
  | some name => .tagged (String.ofList name) v

/-- The value of a scalar. -/
def scalarValue (tag : Option Tag) (plain : Bool) (s : String) :
    Except ShapeError DocumentValue :=
  match tag with
  | none => untaggedValue plain s
  | some t => (taggedContent t plain s).map (underTag tag)

/-! ## YAML as a form of document -/

/-- The largest nesting of collections in a value within a rule's properties. -/
def maxNesting : Nat := 124

/-- A node, and the nodes that references in it are for. -/
structure Cursor where
  anchored : List (Nat × Node)
  node : Node

namespace Cursor

/-- The same document at another node. -/
def moved (c : Cursor) (n : Node) : Cursor :=
  { c with node := n }

/-- Follow a reference. -/
def follow (c : Cursor) : Reading Cursor := do
  match c.node with
  | .reference number =>
    Reading.countReference
    match c.anchored.lookup number with
    | some n => return c.moved n
    | none => throw .unresolvedReference
  | _ => return c

/-- Whether a node is left out. -/
def isOmitted (c : Cursor) : Bool :=
  match c.node with
  | .scalar _ plain text => plain && text == ""
  | _ => false

/-- The text of a scalar, whatever its spelling or tag. -/
def text? (c : Cursor) : Option String :=
  match c.node with
  | .scalar _ _ text => some text
  | _ => none

/-- The name of a choice: an application's own tag of a null, or the text of a scalar without such
a tag. -/
def choice? (c : Cursor) : Option String :=
  match c.node with
  | .scalar tag plain text =>
    match ownTag? tag with
    | some name => if plain && (text == "" || isNullWord text) then some name else none
    | none => some text
  | _ => none

/-- The items of a list.  One that is left out is empty. -/
def items? (c : Cursor) : Option (List Cursor) :=
  match c.node with
  | .list _ items => some (items.map c.moved)
  | _ => if c.isOmitted then some [] else none

/-- The entries of a map.  One that is left out is empty. -/
def entries? (c : Cursor) : Option (List (Cursor × Cursor)) :=
  match c.node with
  | .map _ entries => some (entries.map fun e => (c.moved e.1, c.moved e.2))
  | _ => if c.isOmitted then some [] else none

/-- Whether a node spells null where something optional is expected.  Under the tag of null it can
be nothing else. -/
def isNull (c : Cursor) : Except ShapeError Bool :=
  match c.node with
  | .scalar none true text => .ok (text == "" || isNullWord text)
  | .scalar (some tag) true text =>
    if tag = coreTag "null" then
      if isNullWord text then .ok true else .error .invalidTag
    else .ok false
  | _ => .ok false

/-- The value of a node whose collections may be nested this deeply.  No key of a map may occur
twice. -/
def value : Nat → Cursor → Reading DocumentValue
  | 0, c => do
    let c ← c.follow
    match c.node with
    | .scalar tag plain text => scalarValue tag plain text
    | _ => throw .tooDeep
  | depth + 1, c => do
    let c ← c.follow
    match c.node with
    | .scalar tag plain text => scalarValue tag plain text
    | .list tag items =>
      let vs ← items.mapM fun n => value depth (c.moved n)
      return underTag tag (.list vs)
    | .map tag entries =>
      let vs ← entries.mapM fun e =>
        return (← value depth (c.moved e.1), ← value depth (c.moved e.2))
      if DocumentValue.hasRepeatedKey vs then throw .duplicateKey
      return underTag tag (.map vs)
    | .reference _ => throw .unresolvedReference

/-- The count that a scalar without references spells. -/
def count? (c : Cursor) : Option Nat :=
  match c.node with
  | .scalar tag plain text =>
    match scalarValue tag plain text with
    | .ok (.integer n) => if 0 ≤ n ∧ n < Decimal.wordCount then some n.toNat else none
    | _ => none
  | _ => none

end Cursor

/-- YAML documents. -/
instance : DocumentForm Cursor where
  follow := Cursor.follow
  text? := Cursor.text?
  choice? := Cursor.choice?
  count? := Cursor.count?
  items? := Cursor.items?
  entries? := Cursor.entries?
  fields? _ _ := none
  isNull := Cursor.isNull
  value := Cursor.value maxNesting

/-- How many references can be followed for each part of a document. -/
def referencesPerPart : Nat := 100

/-- Read a structure off a YAML text.  An empty text is an empty map. -/
def readDocument {α : Type} (read : Cursor → Reading α) (text : String) :
    Except (YamlError ⊕ ShapeError) α :=
  match parse text with
  | .error e => .error (.inl e)
  | .ok found =>
    let document := found.getD ⟨.map none [], []⟩
    let limit := referencesPerPart * document.root.size
    ((read ⟨document.anchored, document.root⟩).within limit).mapError Sum.inr

end RuleMetrics.Yaml
