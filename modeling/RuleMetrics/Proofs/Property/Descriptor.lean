import RuleMetrics.Proofs.Property.Format
import RuleMetrics.Property.Set

/-!
# Descriptors as formats

The six kinds of descriptor read, write and check their values in the same way, each with the
format of its own items.  Here that is one statement for all kinds: `Descriptor.format` is the
format, `Descriptor.wrap` makes a value of the kind, and `readRaw_eq`, `write_wrap` and
`problem_wrap` say that a descriptor does what its format does.
-/

namespace RuleMetrics

/-- Read a raw value in a format. -/
def ItemFormat.readRaw {α : Type} (f : ItemFormat α) (delimiter : Option Char) :
    RawValue → Except ReadError (PropertyValue α)
  | .text text => f.readText delimiter text
  | .items texts => f.readItems delimiter texts

lemma ItemFormat.hasRead_of_readRaw {α : Type} {f : ItemFormat α} {delimiter : Option Char}
    {raw : RawValue} {v : PropertyValue α} (h : f.readRaw delimiter raw = .ok v) :
    f.HasRead delimiter v := by
  cases raw with
  | text text => exact hasRead_of_readText h
  | items texts => exact hasRead_of_readItems h

namespace Descriptor

/-- The items of a kind. -/
def Item : Descriptor → Type
  | integer .. => Int
  | float .. => Float
  | boolean .. => Bool
  | text .. => String
  | method .. => MethodSignature
  | type .. => TypeUsage

/-- The format of a descriptor's items. -/
def format : (d : Descriptor) → ItemFormat d.Item
  | integer _ _ min max => ItemFormat.integer min max
  | float _ _ min max => ItemFormat.float min max
  | boolean .. => ItemFormat.boolean
  | text info _ => ItemFormat.text info.delimiter
  | method _ _ registry legal => ItemFormat.method registry legal
  | type _ _ registry legal => ItemFormat.type registry legal

lemma format_integer (info : PropertyInfo) (default : PropertyValue Int) (min max : Int) :
    (integer info default min max).format = ItemFormat.integer min max := rfl

lemma format_float (info : PropertyInfo) (default : PropertyValue Float) (min max : Float) :
    (float info default min max).format = ItemFormat.float min max := rfl

/-- A value of the descriptor's kind. -/
def wrap : (d : Descriptor) → PropertyValue d.Item → TypedValue
  | integer .., v => .integer v
  | float .., v => .float v
  | boolean .., v => .boolean v
  | text .., v => .text v
  | method .., v => .method v
  | type .., v => .type v

lemma kind_wrap (d : Descriptor) (v : PropertyValue d.Item) : (d.wrap v).kind = d.kind := by
  cases d <;> rfl

lemma isAbsent_wrap (d : Descriptor) (v : PropertyValue d.Item) :
    (d.wrap v).isAbsent = v.isAbsent := by
  cases d <;> rfl

/-- All values of the descriptor's kind are wrapped ones. -/
lemma exists_wrap {d : Descriptor} {v : TypedValue} (h : v.kind = d.kind) :
    ∃ w, v = d.wrap w := by
  cases d <;> cases v <;> first | exact ⟨_, rfl⟩ | cases h

lemma kind_default (d : Descriptor) : d.default.kind = d.kind := by
  cases d <;> rfl

lemma readText_eq (d : Descriptor) (text : String) :
    d.readText text = (d.format.readText d.info.delimiter text).map d.wrap := by
  cases d <;> rfl

lemma readRaw_eq (d : Descriptor) (raw : RawValue) :
    PropertySet.readRaw d raw = (d.format.readRaw d.info.delimiter raw).map d.wrap := by
  cases raw <;> cases d <;> rfl

lemma write_wrap (d : Descriptor) (v : PropertyValue d.Item) :
    d.write (d.wrap v) = some (d.format.writeValue d.info.writtenDelimiter v) := by
  cases d <;> rfl

lemma problem_wrap (d : Descriptor) (v : PropertyValue d.Item) :
    d.problem (d.wrap v) = d.format.valueProblem v := by
  cases d <;> rfl

/-- A value and its written form have the same delimiter, if there is one. -/
lemma eq_writtenDelimiter (d : Descriptor) :
    ∀ c ∈ d.info.delimiter, c = d.info.writtenDelimiter := by
  intro c hc
  unfold PropertyInfo.writtenDelimiter
  rw [Option.mem_def.mp hc]
  rfl

/-! ## Delimiters -/

lemma checked_eq_ok_iff {d : Descriptor} :
    d.checked = .ok d ↔ ∀ c ∈ d.info.delimiter, separates d.kind c = true := by
  unfold checked
  cases d.info.delimiter with
  | none => simp
  | some c =>
    cases hsep : separates d.kind c with
    | true => simp [hsep]
    | false => simp [hsep]

/-- A delimiter that separates items of a kind is not among their characters. -/
lemma not_mem_of_separates {kind : PropertyKind} {c : Char} (hsep : separates kind c = true)
    {text : String} (hchars : ∀ c ∈ text.toList, Text.isAlphanumeric c = true ∨ c ∈ reserved kind) :
    c ∉ text.toList := by
  intro hc
  unfold separates at hsep
  rw [Bool.and_eq_true, Bool.not_eq_true', Bool.not_eq_true'] at hsep
  obtain ⟨halphanumeric, hreserved⟩ := hsep
  rcases hchars c hc with h | h
  · rw [halphanumeric] at h
    cases h
  · rw [List.contains_eq_mem, decide_eq_false_iff_not] at hreserved
    exact hreserved h

end Descriptor

end RuleMetrics
