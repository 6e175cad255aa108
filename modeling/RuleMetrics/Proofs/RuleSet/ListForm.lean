import RuleMetrics.Proofs.RuleSet.Outcomes

/-!
# Lists and delimited texts

The items of a property are written as a list, or as one text with the delimiter between them.  A
list is taken item by item and never cut, so an item in it may hold the delimiter; no text says the
same as such a list.  All other lists can be joined (`Joinable`), and then it does not matter which
of the two is read: cutting the joined text gives the items back, and blank items are skipped
either way.  A list of no items joins to the empty text, which has one blank piece or no value.

Reading is the only step that sees the form.  So a property is configured alike, or fails alike,
from both (`configure_items_eq`), and an entry of a rule set is loaded alike, whatever other
properties it has.
-/

namespace RuleMetrics

variable {texts : List String} {name : String} {d : Descriptor}

/-- Items that one text can hold: of a multi-valued property any without the delimiter, and of a
single-valued one no more than one item. -/
inductive Joinable : Option Char → List String → Prop where
  | several {c : Char} {texts : List String} (h : ∀ t ∈ texts, c ∉ t.toList) :
      Joinable (some c) texts
  | none : Joinable none []
  | one (text : String) : Joinable none [text]

/-! ## Reading -/

lemma ItemFormat.readItems_eq_readText {α : Type} (f : ItemFormat α) {delimiter : Option Char}
    {c : Char} (hc : ∀ c' ∈ delimiter, c' = c) (h : Joinable delimiter texts) :
    f.readItems delimiter texts = f.readText delimiter (Text.join c.toString texts) := by
  cases h with
  | several h =>
    obtain rfl := hc _ rfl
    exact (f.readAll_piecesOf_join h).symm
  | none => rfl
  | one text =>
    rw [Text.join_singleton]
    rfl

/-- The text of some items of a property. -/
def Descriptor.joined (d : Descriptor) (texts : List String) : String :=
  Text.join d.info.writtenDelimiter.toString texts

lemma readRaw_items_eq (h : Joinable d.info.delimiter texts) :
    PropertySet.readRaw d (.items texts) = PropertySet.readRaw d (.text (d.joined texts)) := by
  rw [Descriptor.readRaw_eq, Descriptor.readRaw_eq]
  exact congrArg _ (d.format.readItems_eq_readText d.eq_writtenDelimiter h)

/-! ## Configuring -/

section Configure

variable {s : PropertySet} {r : Rule} {v w : DocumentValue}

lemma PropertySet.accept_items_eq (hd : s.descriptor? name = some d)
    (h : Joinable d.info.delimiter texts) :
    s.accept name (.items texts) = s.accept name (.text (d.joined texts)) := by
  unfold accept
  rw [hd]
  dsimp only
  rw [readRaw_items_eq h]

lemma PropertySet.configure_items_eq (hd : s.descriptor? name = some d)
    (h : Joinable d.info.delimiter texts) :
    s.configure name (.items texts) = s.configure name (.text (d.joined texts)) := by
  rw [configure_eq, configure_eq, accept_items_eq hd h]

lemma DocumentValue.raw?_of_scalarText? {text : String} (h : v.scalarText? = some text) :
    v.raw? = some (.text text) := by
  cases v <;> cases h <;> rfl

lemma Rule.acceptValue_list_eq (hd : r.properties.descriptor? name = some d)
    (h : Joinable d.info.delimiter texts) {values : List DocumentValue}
    (hvalues : values.mapM DocumentValue.scalarText? = some texts)
    (hv : v.scalarText? = some (d.joined texts)) :
    r.acceptValue name (.list values) = r.acceptValue name v := by
  have hlist : (DocumentValue.list values).raw? = some (.items texts) :=
    congrArg (Option.map RawValue.items) hvalues
  unfold acceptValue
  rw [hlist, DocumentValue.raw?_of_scalarText? hv]
  dsimp only
  rw [PropertySet.accept_items_eq hd h]

/-! ## Entries of a rule set -/

lemma filterMap_insertEntry_eq {β : Type} {f : String × DocumentValue → Option β}
    (h : f (name, v) = f (name, w)) (properties : List (String × DocumentValue)) :
    (Text.insertEntry name v properties).filterMap f =
      (Text.insertEntry name w properties).filterMap f := by
  induction properties with
  | nil => simp only [Text.insertEntry, List.filterMap_cons, h]
  | cons e rest ih =>
    unfold Text.insertEntry
    split
    · simp only [List.filterMap_cons, h]
    · split
      · simp only [List.filterMap_cons, h]
      · simp only [List.filterMap_cons, ih]

/-- Two values of a property that are accepted alike configure a rule alike. -/
lemma Rule.configureAll_insertEntry_eq (h : r.acceptValue name v = r.acceptValue name w)
    (properties : List (String × DocumentValue)) :
    r.configureAll (Text.insertEntry name v properties) =
      r.configureAll (Text.insertEntry name w properties) := by
  have haccepted : r.accepted (Text.insertEntry name v properties) =
      r.accepted (Text.insertEntry name w properties) :=
    filterMap_insertEntry_eq (by simp only [h]) properties
  have hfailing : r.failing (Text.insertEntry name v properties) =
      r.failing (Text.insertEntry name w properties) :=
    filterMap_insertEntry_eq (by simp only [h]) properties
  rw [configureAll_eq, configureAll_eq, haccepted, hfailing]

/-- The entry with one property more, or with another value of it. -/
def RuleEntry.withProperty (entry : RuleEntry) (name : String) (v : DocumentValue) : RuleEntry :=
  { entry with properties := entry.properties.insert name v }

lemma RuleEntry.load_withProperty_eq {registry : Registry} {entry : RuleEntry}
    (hrule : builtinRule? registry entry.name = some r)
    (h : r.acceptValue name v = r.acceptValue name w) :
    (entry.withProperty name v).load registry = (entry.withProperty name w).load registry := by
  have hconfigured := Rule.configureAll_insertEntry_eq h entry.properties.entries
  unfold RuleEntry.load RuleEntry.withProperty Text.Table.insert
  dsimp only
  rw [hrule]
  dsimp only
  rw [hconfigured]

end Configure

/-- **A list of items is read as their text.**  Items that can be joined give a property the same
value, or the same error, as the text in which they are joined; they configure it the same way; and
an entry of a rule set that has a list of such scalars for one of its properties is loaded as it is
with their text in place of the list. -/
theorem lists_read_as_texts :
    (∀ (d : Descriptor) (texts : List String), Joinable d.info.delimiter texts →
      d.readItems texts = d.readText (d.joined texts)) ∧
    (∀ (s : PropertySet) (name : String) (d : Descriptor) (texts : List String),
      s.descriptor? name = some d → Joinable d.info.delimiter texts →
      s.configure name (.items texts) = s.configure name (.text (d.joined texts))) ∧
    ∀ (registry : Registry) (entry : RuleEntry) (rule : Rule) (name : String) (d : Descriptor)
      (values : List DocumentValue) (texts : List String) (whole : DocumentValue),
      builtinRule? registry entry.name = some rule →
      rule.properties.descriptor? name = some d → Joinable d.info.delimiter texts →
      values.mapM DocumentValue.scalarText? = some texts →
      whole.scalarText? = some (d.joined texts) →
      (entry.withProperty name (.list values)).load registry =
        (entry.withProperty name whole).load registry := by
  refine ⟨?_, ?_, ?_⟩
  · intro d texts h
    exact readRaw_items_eq h
  · intro s name d texts hd h
    exact PropertySet.configure_items_eq hd h
  · intro registry entry rule name d values texts whole hrule hd h hvalues hwhole
    exact RuleEntry.load_withProperty_eq hrule (Rule.acceptValue_list_eq hd h hvalues hwhole)

/-- Words with commas between them. -/
def wordsDescriptor : Descriptor :=
  .text ⟨"words", "", 0, some ','⟩ .absent

/-- Blank items go in both forms, and a reference that cannot be read has the entry rejected. -/
theorem lists_read_as_texts_of_samples :
    wordsDescriptor.readItems ["a b", " ", "c"] = wordsDescriptor.readText "a b, ,c" ∧
      wordsDescriptor.readText "a b, ,c" = .ok (.text (.multi ["a b", "c"])) ∧
      (plainEntry.withProperty ConstructorSize.ignoredCallsName
        (.list [.text "Object#hash()", .null, .integer 5])).load smallRegistry =
      (plainEntry.withProperty ConstructorSize.ignoredCallsName
        (.text "Object#hash()  5")).load smallRegistry ∧
      ((plainEntry.withProperty ConstructorSize.ignoredCallsName
        (.text "Object#hash()  5")).load smallRegistry).toBool = false := by
  obtain ⟨hread, -, hload⟩ := lists_read_as_texts
  refine ⟨hread wordsDescriptor ["a b", " ", "c"] (.several (by decide)), rfl, ?_, ?_⟩
  · exact hload smallRegistry plainEntry (ConstructorSize.rule smallRegistry)
      ConstructorSize.ignoredCallsName _ _ ["Object#hash()", "", "5"] _ rfl rfl
      (.several (by decide)) rfl rfl
  · decide +kernel

end RuleMetrics
