import RuleMetrics.Document.Value

/-!
# Reading structures off documents

Rule sets, catalogs and run results have a fixed shape: maps with known fields, lists and texts.
They can be written in more than one form of document.  A form says what counts as a text, a list
or a map; what the fields mean is stated once, on top of it.

A field may be missing where it has a default, fields with other names are ignored, and a known
field may not occur twice.  Where a form allows it, a structure may also be the list of its fields
in their order.

A document may refer to parts of itself, so a short one can stand for a very large structure.
Reading follows only a limited number of references in all.
-/

namespace RuleMetrics

/-- Why a document does not have the expected shape. -/
inductive ShapeError where
  | notText
  | notList
  | notMap
  | notCount
  | missingField (name : String)
  | duplicateField (name : String)
  | unknownChoice (name : String)
  | duplicateKey
  | numberTooLarge
  | invalidTag
  | tooDeep
  | unresolvedReference
deriving Repr, DecidableEq

/-- The wording of an error. -/
def ShapeError.message : ShapeError → String
  | notText => "expected a text"
  | notList => "expected a list"
  | notMap => "expected a map"
  | notCount => "expected a count"
  | missingField name => "missing field " ++ name
  | duplicateField name => "duplicate field " ++ name
  | unknownChoice name => "unknown choice " ++ name
  | duplicateKey => "a key occurs twice"
  | numberTooLarge => "a number is too large"
  | invalidTag => "a value does not fit its tag"
  | tooDeep => "collections are nested too deeply"
  | unresolvedReference => "a reference cannot be followed"

/-- A step of reading, which knows how many more references can be followed. -/
abbrev Reading := StateT Nat (Except ShapeError)

namespace Reading

/-- Take one from the references that can be followed. -/
def countReference : Reading Unit := do
  match ← get with
  | 0 => throw .unresolvedReference
  | left + 1 => set left

/-- What is read where this many references can be followed. -/
def within {α : Type} (limit : Nat) (r : Reading α) : Except ShapeError α :=
  (r.run limit).map Prod.fst

end Reading

/-- How documents of some form are taken apart. -/
class DocumentForm (N : Type) where
  /-- What a node stands for: another node if it is a reference, and itself if it is not.  The
  other functions take a node that is not a reference. -/
  follow : N → Reading N
  /-- The text of a scalar that stands where a text is expected. -/
  text? : N → Option String
  /-- The name of a choice among several. -/
  choice? : N → Option String
  /-- The number of a scalar that stands where a count is expected. -/
  count? : N → Option Nat
  items? : N → Option (List N)
  entries? : N → Option (List (N × N))
  /-- The fields of a structure, by their names in order, where it is not written as a map. -/
  fields? : List String → N → Option (List (String × N))
  /-- Whether something optional is left out. -/
  isNull : N → Except ShapeError Bool
  /-- The value of a node of any kind. -/
  value : N → Reading DocumentValue

namespace DocumentForm

variable {N α : Type} [DocumentForm N]

/-- Read what a node or the node it stands for is, if it is of the expected kind. -/
def expect (expected : ShapeError) (kind? : N → Option α) (n : N) : Reading α := do
  match kind? (← follow n) with
  | some a => return a
  | none => throw expected

/-- Read a text. -/
def readText (n : N) : Reading String :=
  expect .notText text? n

/-- Read a count. -/
def readCount (n : N) : Reading Nat :=
  expect .notCount count? n

/-- Read a list. -/
def readList (read : N → Reading α) (n : N) : Reading (List α) := do
  (← expect .notList items? n).mapM read

/-- Read the entries of a map whose keys are texts. -/
def readEntries (n : N) : Reading (List (String × N)) := do
  (← expect .notMap entries? n).mapM fun e => return (← readText e.1, e.2)

/-- Read the fields of a structure whose fields have these names, in this order. -/
def readFields (names : List String) (n : N) : Reading (List (String × N)) := do
  let n ← follow n
  match fields? names n with
  | some fields => return fields
  | none => readEntries n

/-- Read something that may be null. -/
def readOptional (read : N → Reading α) (n : N) : Reading (Option α) := do
  let n ← follow n
  if ← isNull n then return none
  return some (← read n)

/-- Read one of several choices by its name. -/
def readChoice (ofName? : String → Option α) (n : N) : Reading α := do
  let name ← expect .notText choice? n
  match ofName? name with
  | some choice => return choice
  | none => throw (.unknownChoice name)

/-- Read a field that occurs once at most. -/
def field? (entries : List (String × N)) (name : String) (read : N → Reading α) :
    Reading (Option α) :=
  match entries.filter fun e => e.1 == name with
  | [] => return none
  | [e] => return some (← read e.2)
  | _ => throw (.duplicateField name)

/-- Read a field that has a default. -/
def fieldOr (entries : List (String × N)) (name : String) (default : α)
    (read : N → Reading α) : Reading α :=
  return (← field? entries name read).getD default

/-- Read a field that must be there. -/
def field (entries : List (String × N)) (name : String) (read : N → Reading α) :
    Reading α := do
  match ← field? entries name read with
  | some v => return v
  | none => throw (.missingField name)

end DocumentForm

/-- Values are a form of document: a text must be a text, and null is not a text, a list or a
map.  A structure may be a list of its first fields, and a choice a map from its name to null.
Nothing is a reference. -/
instance : DocumentForm DocumentValue where
  follow v := return v
  text?
    | .text s => some s
    | _ => none
  choice?
    | .text s => some s
    | .map [(.text s, .null)] => some s
    | _ => none
  count?
    | .integer n => if 0 ≤ n ∧ n < Decimal.wordCount then some n.toNat else none
    | _ => none
  items?
    | .list items => some items
    | _ => none
  entries?
    | .map entries => some entries
    | _ => none
  fields?
    | names, .list items => if items.length ≤ names.length then some (names.zip items) else none
    | _, _ => none
  isNull
    | .null => .ok true
    | _ => .ok false
  value v := return v

/-- Read a structure off a value. -/
def readValue {α : Type} (read : DocumentValue → Reading α) (v : DocumentValue) :
    Except ShapeError α :=
  (read v).within 0

end RuleMetrics
