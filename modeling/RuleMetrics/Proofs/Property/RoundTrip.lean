import RuleMetrics.Proofs.Decimal.FloatText
import RuleMetrics.Proofs.Property.Descriptor
import RuleMetrics.Proofs.Registry.Catalog
import RuleMetrics.Proofs.Registry.Signature

/-!
# Values survive writing and reading

Whatever text a property is configured with, the text of its value reads as the same value.  Kind
by kind this is a fact about single items: their texts read back, and consist of letters, digits
and the characters that the kind reserves, of which none can be a delimiter.  Free text is the
exception; its items may hold anything but the delimiter, and that is checked of the value.
-/

namespace RuleMetrics

open Text

variable {delimiter : Option Char} {text : String}

/-- No item is written with blanks, unless it is free text. -/
lemma Descriptor.isBlank_eq_false {kind : PropertyKind} {c : Char}
    (hc : isAlphanumeric c = true ∨ c ∈ reserved kind) : isBlank c = false := by
  rcases hc with h | h
  · exact isBlank_eq_false_of_isAlphanumeric h
  · have hreserved : ((reserved kind).all fun c => !isBlank c) = true := by
      cases kind <;> decide
    simpa using List.all_eq_true.mp hreserved c h

/-- Items that are written with the characters of their kind survive if they read back. -/
lemma ItemFormat.survives_of_chars {α : Type} {f : ItemFormat α} {item : α} {kind : PropertyKind}
    (hsep : ∀ c ∈ delimiter, Descriptor.separates kind c = true)
    (hread : f.read (f.write item) = .ok item) (hne : (f.write item).toList ≠ [])
    (hchars : ∀ c ∈ (f.write item).toList,
      isAlphanumeric c = true ∨ c ∈ Descriptor.reserved kind) : f.Survives delimiter item where
  read_write := hread
  not_blank := isBlankText_eq_false hne fun c hc => Descriptor.isBlank_eq_false (hchars c hc)
  not_mem c hc := Descriptor.not_mem_of_separates (hsep c hc) hchars

/-! ## Numbers and truth values -/

lemma ItemFormat.integer_survives {min max n : Int}
    (hsep : ∀ c ∈ delimiter, Descriptor.separates .integer c = true)
    (hread : (ItemFormat.integer min max).read text = .ok n) :
    (ItemFormat.integer min max).Survives delimiter n := by
  have hrange : Decimal.minInt64 ≤ n ∧ n ≤ Decimal.maxInt64 := by
    simp only [integer] at hread
    split at hread
    · next m hm =>
      cases hread
      exact Decimal.range_of_readInt? hm
    · cases hread
  have hchars : ∀ c ∈ (Decimal.intText n).toList,
      isAlphanumeric c = true ∨ c ∈ Descriptor.reserved .integer := by
    intro c hc
    rcases Decimal.mem_intText hc with hdigit | rfl
    · exact Or.inl (isAlphanumeric_of_isDigit hdigit)
    · exact Or.inr (by decide)
  have htrim : trim (Decimal.intText n) = Decimal.intText n :=
    trim_eq_self (Trimmed.of_forall fun c hc => Descriptor.isBlank_eq_false (hchars c hc))
  refine survives_of_chars hsep ?_ (Decimal.intText_ne_empty n) hchars
  simp only [integer, htrim, Decimal.readInt?_intText hrange.1 hrange.2]

lemma ItemFormat.float_survives {min max x : Float}
    (hsep : ∀ c ∈ delimiter, Descriptor.separates .float c = true)
    (hread : (ItemFormat.float min max).read text = .ok x) :
    (ItemFormat.float min max).Survives delimiter x := by
  have hfinite : Decimal.isFinite x = true := by
    simp only [float] at hread
    split at hread
    · split at hread
      · next y _ hy =>
        cases hread
        exact hy
      · cases hread
    · cases hread
  have hchars : ∀ c ∈ (Decimal.floatText x).toList,
      isAlphanumeric c = true ∨ c ∈ Descriptor.reserved .float := by
    intro c hc
    rcases Decimal.mem_floatText hc with halphanumeric | rfl | rfl
    · exact Or.inl halphanumeric
    · exact Or.inr (by decide)
    · exact Or.inr (by decide)
  have htrim : trim (Decimal.floatText x) = Decimal.floatText x :=
    trim_eq_self (Trimmed.of_forall fun c hc => Descriptor.isBlank_eq_false (hchars c hc))
  refine survives_of_chars hsep ?_ (Decimal.floatText_ne_empty x) hchars
  simp only [float, htrim, Decimal.readFloat?_floatText hfinite, hfinite, if_true]

lemma ItemFormat.boolean_survives (b : Bool)
    (hsep : ∀ c ∈ delimiter, Descriptor.separates .boolean c = true) :
    ItemFormat.boolean.Survives delimiter b := by
  have hword : (ItemFormat.boolean.write b).toList.all isAlphanumeric = true := by
    cases b <;> decide
  refine survives_of_chars hsep ?_ ?_ fun c hc => Or.inl (List.all_eq_true.mp hword c hc)
  · cases b <;> decide
  · cases b <;> decide

/-! ## Texts -/

lemma ItemFormat.text_survives {item : String}
    (hblank : isBlankText text = false) (hread : (ItemFormat.text delimiter).read text = .ok item)
    (hallowed : (ItemFormat.text delimiter).problem item = none) :
    (ItemFormat.text delimiter).Survives delimiter item where
  read_write := rfl
  not_blank := by
    cases hread
    exact hblank
  not_mem := by
    intro c hc hmem
    rw [Option.mem_def] at hc
    subst hc
    change c ∈ item.toList at hmem
    change (if c ∈ item.toList then some (ItemProblem.containsDelimiter item c) else none) = none
      at hallowed
    rw [if_pos hmem] at hallowed
    cases hallowed

/-! ## Methods and types -/

variable {registry : Registry} {legal : LegalNamespaces}

lemma ItemFormat.method_survives (hbuilt : registry.Built) (hwords : registry.AllNames IsWord)
    (hsep : ∀ c ∈ delimiter, Descriptor.separates .method c = true) {m : MethodSignature}
    (hread : (ItemFormat.method registry legal).read text = .ok m) :
    (ItemFormat.method registry legal).Survives delimiter m := by
  have hm := hbuilt.hasSignature_of_readSignature hread
  obtain ⟨howner, hname, husages⟩ := hm.allNames hbuilt hwords
  have hwrite : (ItemFormat.method registry legal).write m = registry.signatureText m := rfl
  apply survives_of_chars hsep
  · rw [hwrite]
    exact hbuilt.readSignature_signatureText (hwords.imp fun _ h => h.isPlain) hm
  · rw [hwrite, Registry.toList_signatureText]
    exact List.append_ne_nil_of_right_ne_nil _ (List.cons_ne_nil _ _)
  · intro c hc
    rw [hwrite] at hc
    exact Registry.mem_signatureText_of_isWord howner hname husages hc

lemma ItemFormat.type_survives (hbuilt : registry.Built) (hwords : registry.AllNames IsWord)
    (hsep : ∀ c ∈ delimiter, Descriptor.separates .type c = true) {usage : TypeUsage}
    (hread : (ItemFormat.type registry legal).read text = .ok usage) :
    (ItemFormat.type registry legal).Survives delimiter usage := by
  have husage := hbuilt.hasUsage_of_resolveUsage hread
  have hname : IsWord (registry.shortName usage.base) :=
    hbuilt.shortName_of_allNames hwords husage.base_lt
  have hwrite : (ItemFormat.type registry legal).write usage = registry.usageText usage := rfl
  apply survives_of_chars hsep
  · rw [hwrite]
    exact hbuilt.resolveUsage_usageText (hwords.imp fun _ h => h.isPlain) husage
  · rw [hwrite]
    exact Registry.usageText_ne_nil hname.isPlain
  · intro c hc
    rw [hwrite] at hc
    exact Registry.mem_usageText_of_isWord hname hc

/-! ## All kinds -/

namespace Descriptor

/-- If a descriptor has a registry, it is a built one, and its names are words. -/
def NamesAreWords : Descriptor → Prop
  | method _ _ registry _ => registry.Built ∧ registry.AllNames IsWord
  | type _ _ registry _ => registry.Built ∧ registry.AllNames IsWord
  | _ => True

/-- An allowed item that was read survives, of whatever kind it is. -/
lemma survives {d : Descriptor} (hsep : ∀ c ∈ d.info.delimiter, separates d.kind c = true)
    (hwords : d.NamesAreWords) {item : d.Item} (hblank : isBlankText text = false)
    (hread : d.format.read text = .ok item) (hallowed : d.format.problem item = none) :
    d.format.Survives d.info.delimiter item := by
  cases d with
  | integer info _ min max =>
    simp only [format] at hread ⊢
    exact ItemFormat.integer_survives hsep hread
  | float info _ min max =>
    simp only [format] at hread ⊢
    exact ItemFormat.float_survives hsep hread
  | boolean info _ => exact ItemFormat.boolean_survives item hsep
  | text info _ => exact ItemFormat.text_survives hblank hread hallowed
  | method info _ registry legal =>
    exact ItemFormat.method_survives hwords.1 hwords.2 hsep hread
  | type info _ registry legal => exact ItemFormat.type_survives hwords.1 hwords.2 hsep hread

end Descriptor

/-- **Values survive writing and reading.**  Take a descriptor that was checked, with a registry of
words if it needs one, and any text or list of texts that it reads as an allowed value.  The value
has a text, and that text is read as the same value. -/
theorem value_round_trips (d : Descriptor) (raw : RawValue) {v : TypedValue}
    (hchecked : d.checked = .ok d) (hwords : d.NamesAreWords)
    (hread : PropertySet.readRaw d raw = .ok v) (hallowed : d.problem v = none) :
    ∃ text, d.write v = some text ∧ d.readText text = .ok v := by
  rw [Descriptor.readRaw_eq] at hread
  obtain ⟨w, hw, rfl⟩ := Except.map_eq_ok_iff.mp hread
  have hhas := ItemFormat.hasRead_of_readRaw hw
  have hsep := Descriptor.checked_eq_ok_iff.mp hchecked
  rw [Descriptor.problem_wrap] at hallowed
  have hitems : ∀ item ∈ w.items, d.format.Survives d.info.delimiter item := by
    intro item hitem
    obtain ⟨text, hblank, htext⟩ := hhas.items item hitem
    have hitem' : d.format.problem item = none := List.findSome?_eq_none_iff.mp hallowed item hitem
    exact Descriptor.survives hsep hwords hblank htext hitem'
  refine ⟨d.format.writeValue d.info.writtenDelimiter w, Descriptor.write_wrap d w, ?_⟩
  rw [Descriptor.readText_eq, Except.map_eq_ok_iff]
  exact ⟨w, ItemFormat.readText_writeValue hhas.fits d.eq_writtenDelimiter hitems, rfl⟩

/-- Methods of `smallRegistry` and weights, each separated by semicolons. -/
def methodsProperty : Descriptor :=
  .method ⟨"methods", "methods that are left out", 1.0, some ';'⟩ .absent smallRegistry
    .unconstrained

@[inherit_doc methodsProperty]
def weightsProperty : Descriptor :=
  .float ⟨"weights", "weights of the scores", 2.0, some ';'⟩ .absent (-10) 10

lemma allNames_smallRegistry : smallRegistry.AllNames IsWord := by
  constructor <;> decide +kernel

/-- One of the methods is inherited, and the texts are not spelled as they will be written. -/
theorem value_round_trips_of_samples :
    (∃ text, methodsProperty.write (.method (.multi [⟨⟨0⟩, "hash", []⟩,
        ⟨⟨1⟩, "join", [⟨⟨2⟩, 2⟩, ⟨⟨1⟩, 0⟩]⟩])) = some text ∧
      methodsProperty.readText text = .ok (.method (.multi [⟨⟨0⟩, "hash", []⟩,
        ⟨⟨1⟩, "join", [⟨⟨2⟩, 2⟩, ⟨⟨1⟩, 0⟩]⟩]))) ∧
    ∃ text, weightsProperty.write (.float (.multi [0.1, -2.5])) = some text ∧
      weightsProperty.readText text = .ok (.float (.multi [0.1, -2.5])) := by
  constructor
  · have hread : (ItemFormat.method smallRegistry .unconstrained).readText (some ';')
        "Text#hash; ;String # join ( char[] [],Text )" =
        .ok (.multi [⟨⟨0⟩, "hash", []⟩, ⟨⟨1⟩, "join", [⟨⟨2⟩, 2⟩, ⟨⟨1⟩, 0⟩]⟩]) := by
      decide +kernel
    refine value_round_trips methodsProperty
      (.text "Text#hash; ;String # join ( char[] [],Text )") ?_
      ⟨Catalog.built_of_build build_smallCatalog, allNames_smallRegistry⟩
      (congrArg (Except.map TypedValue.method) hread) rfl
    rw [Descriptor.checked_eq_ok_iff]
    rintro c ⟨⟩
    decide +kernel
  · have hread : (ItemFormat.float (-10) 10).readItems (some ';') ["0.1", " ", " -2.50"] =
        .ok (.multi [0.1, -2.5]) := by
      decide +kernel
    refine value_round_trips weightsProperty (.items ["0.1", " ", " -2.50"]) ?_
      trivial (congrArg (Except.map TypedValue.float) hread) ?_
    · rw [Descriptor.checked_eq_ok_iff]
      rintro c ⟨⟩
      decide +kernel
    · have hproblem : (ItemFormat.float (-10) 10).valueProblem (.multi [0.1, -2.5]) = none := by
        decide +kernel
      exact hproblem

end RuleMetrics
