import RuleMetrics.Proofs.Registry.Resolution
import RuleMetrics.Proofs.Text.Alphanumeric

/-!
# Reading and writing usages and signatures

A registry with plain names reads back what it writes: the usages of its types (`HasUsage`) and the
signatures of its methods (`HasSignature`), and these are all that it ever reads.  If moreover the
names are words, what it writes holds letters, digits and the punctuation of references, and
nothing else.

Reading back needs no more of a registry than that it was built: `Registry.Built` asks only that
its aliases belong to types that it has, so a parent may even stand after its child.
-/

namespace RuleMetrics

open Text

/-! ## Names -/

/-- A name made of letters, digits, points, underscores and dollar signs. -/
def IsWord (name : String) : Prop :=
  name ≠ "" ∧ ∀ c ∈ name.toList, isAlphanumeric c = true ∨ c ∈ ['.', '_', '$']

instance IsWord.decidable (name : String) : Decidable (IsWord name) :=
  decidable_of_iff
    (name ≠ "" ∧ (name.toList.all fun c => isAlphanumeric c || ['.', '_', '$'].contains c) = true)
    (by simp [IsWord])

lemma IsWord.isPlain {name : String} (h : IsWord name) : IsPlain name := by
  refine ⟨h.1, ?_⟩
  intro c hc
  rcases h.2 c hc with halphanumeric | hpunctuation
  · refine ⟨isBlank_eq_false_of_isAlphanumeric halphanumeric, ?_⟩
    have hmarks : (['#', '(', ')', ',', '[', ']'].all fun c => !isAlphanumeric c) = true := by
      decide +kernel
    intro hmark
    have hnot := List.all_eq_true.mp hmarks c hmark
    rw [halphanumeric] at hnot
    cases hnot
  · simp only [List.mem_cons, List.not_mem_nil, or_false] at hpunctuation
    rcases hpunctuation with rfl | rfl | rfl <;> decide

/-- What is made of words may hold letters, digits and whatever else is allowed besides the
punctuation of words. -/
lemma IsWord.allows {name : String} (h : IsWord name) {allowed : List Char}
    (hallowed : ∀ c ∈ ['.', '_', '$'], c ∈ allowed) {c : Char} (hc : c ∈ name.toList) :
    isAlphanumeric c = true ∨ c ∈ allowed :=
  (h.2 c hc).imp id fun hpunctuation => hallowed c hpunctuation

lemma IsPlain.isBase {name : String} (h : IsPlain name) : TypeUsage.IsBase name.toList where
  trimmed := h.trimmed
  no_pair hpair := h.not_mem (by decide) (hpair.subset List.mem_cons_self)

namespace Registry

variable {r : Registry} {P : String → Prop} {id : TypeId} {usage : TypeUsage} {text : String}
  {m : MethodSignature}

/-- All names in a registry, of types, aliases and methods, are of one kind. -/
structure AllNames (r : Registry) (P : String → Prop) : Prop where
  types : ∀ t ∈ r.types, P t.qualifiedName
  aliases : ∀ entry ∈ r.aliases, P entry.1
  methods : ∀ t ∈ r.types, ∀ m ∈ t.methods, P m.name

lemma AllNames.imp {Q : String → Prop} (h : r.AllNames P) (hpq : ∀ name, P name → Q name) :
    r.AllNames Q where
  types t ht := hpq _ (h.types t ht)
  aliases entry hentry := hpq _ (h.aliases entry hentry)
  methods t ht m hm := hpq _ (h.methods t ht m hm)

lemma Built.resolve_shortName (h : r.Built) (hid : id.index < r.size) :
    r.resolve (r.shortName id) = some id := by
  obtain ⟨calls, hbuild, -⟩ := h
  exact Builder.resolve_shortName_of_build (Builder.distinct_run calls) hbuild hid

lemma Built.resolve_lt (h : r.Built) {name : String} (hname : r.resolve name = some id) :
    id.index < r.size := by
  obtain ⟨-, -, haliases⟩ := h
  exact lt_of_findNamed haliases hname

/-- The name that a type is shown by is one of the names of the registry. -/
lemma Built.shortName_of_allNames (h : r.Built) (hnames : r.AllNames P) (hid : id.index < r.size) :
    P (r.shortName id) := by
  obtain ⟨calls, hbuild, -⟩ := h
  rcases Builder.shortName_cases hbuild id with hmem | heq
  · exact hnames.aliases _ hmem
  · obtain ⟨t, ht, hname⟩ := Builder.declaration_of_lt hid
    rw [heq, hname]
    exact hnames.types t (List.mem_of_getElem? ht)

/-! ## Usages -/

/-- A usage of a type that the registry has, with no more dimensions than are read. -/
structure HasUsage (r : Registry) (usage : TypeUsage) : Prop where
  base_lt : usage.base.index < r.size
  dimensions_le : usage.dimensions ≤ TypeUsage.maxDimensions

/-- Nothing else is read. -/
lemma Built.hasUsage_of_resolveUsage (h : r.Built) (hread : r.resolveUsage text = .ok usage) :
    r.HasUsage usage := by
  obtain ⟨name, -, hname, -⟩ := TypeUsage.exists_name_of_read hread
  exact ⟨h.resolve_lt hname, TypeUsage.dimensions_le_of_read hread⟩

lemma Built.resolveUsage_usageText (h : r.Built) (hnames : r.AllNames IsPlain)
    (husage : r.HasUsage usage) : r.resolveUsage (r.usageText usage) = .ok usage := by
  have hplain : IsPlain (r.shortName usage.base) := h.shortName_of_allNames hnames husage.base_lt
  exact Registry.resolveUsage_usageText hplain.1 hplain.isBase
    (h.resolve_shortName husage.base_lt) husage.dimensions_le

/-- A usage is written with the characters of a name and with brackets. -/
lemma mem_usageText {c : Char} (hc : c ∈ (r.usageText usage).toList) :
    c ∈ (r.shortName usage.base).toList ∨ c = '[' ∨ c = ']' := by
  rw [toList_usageText, List.mem_append] at hc
  rcases hc with hc | hc
  · exact Or.inl hc
  · exact Or.inr (List.mem_pair.mp (TypeUsage.mem_of_mem_flatten_replicate hc))

lemma usageText_ne_nil (hname : IsPlain (r.shortName usage.base)) :
    (r.usageText usage).toList ≠ [] := by
  rw [toList_usageText]
  apply List.append_ne_nil_of_left_ne_nil
  rw [Ne, String.toList_eq_nil_iff]
  exact hname.1

/-- A usage may stand among the arguments of a reference. -/
lemma argument_usageText (hname : IsPlain (r.shortName usage.base)) {c : Char}
    (hc : c ∈ (r.usageText usage).toList) :
    isBlank c = false ∧ c ∉ ['(', ')', ','] := by
  rcases mem_usageText hc with hc | rfl | rfl
  · obtain ⟨hblank, hmark⟩ := hname.2 c hc
    refine ⟨hblank, ?_⟩
    simp only [List.mem_cons, List.not_mem_nil, or_false, not_or] at hmark ⊢
    tauto
  · decide
  · decide

/-! ## Signatures -/

/-- The signature of a method that a type of the registry declares. -/
structure HasSignature (r : Registry) (m : MethodSignature) : Prop where
  declares : r.declares m.declaringType m.name m.parameters = true
  parameters : ∀ usage ∈ m.parameters, r.HasUsage usage

/-- Nothing else is read. -/
lemma Built.hasSignature_of_readSignature (h : r.Built) (hread : r.readSignature text = .ok m) :
    r.HasSignature m := by
  obtain ⟨reference, owner, -, hnames, -, -, -, -, hmethod, -⟩ := readSignature_eq_ok_iff.mp hread
  refine ⟨declares_iff.mpr hmethod, ?_⟩
  intro usage husage
  obtain ⟨argument, -, hargument⟩ := hnames.arguments.flip.exists_of_mem husage
  exact h.hasUsage_of_resolveUsage hargument

/-- The characters of a signature, part by part. -/
lemma toList_signatureText (r : Registry) (m : MethodSignature) :
    (r.signatureText m).toList = (r.shortName m.declaringType).toList ++
      '#' :: (m.name.toList ++ '(' :: ((join "," (m.parameters.map r.usageText)).toList ++
        [')'])) := by
  have hmark : "#".toList = ['#'] := rfl
  have hopening : "(".toList = ['('] := rfl
  have hclosing : ")".toList = [')'] := rfl
  simp only [signatureText, String.toList_append, hmark, hopening, hclosing, List.append_assoc,
    List.cons_append, List.nil_append]

/-- The names that a signature is written with are names of the registry. -/
lemma HasSignature.allNames (hm : r.HasSignature m) (h : r.Built) (hnames : r.AllNames P) :
    P (r.shortName m.declaringType) ∧ P m.name ∧
      ∀ usage ∈ m.parameters, P (r.shortName usage.base) := by
  obtain ⟨t, ht, hmethod⟩ := declares_iff.mp hm.declares
  have hlt : m.declaringType.index < r.size := (List.getElem?_eq_some_iff.mp ht).1
  refine ⟨h.shortName_of_allNames hnames hlt,
    hnames.methods t (List.mem_of_getElem? ht) _ hmethod, ?_⟩
  intro usage husage
  exact h.shortName_of_allNames hnames (hm.parameters usage husage).base_lt

/-- The arguments of a written signature are found again. -/
lemma argumentTexts_usageTexts {usages : List TypeUsage}
    (h : ∀ usage ∈ usages, IsPlain (r.shortName usage.base)) :
    Reference.argumentTexts (join "," (usages.map r.usageText)).toList =
      usages.map r.usageText := by
  apply Reference.argumentTexts_join
  · intro text htext
    obtain ⟨usage, husage, rfl⟩ := List.mem_map.mp htext
    exact usageText_ne_nil (h usage husage)
  · intro text htext c hc
    obtain ⟨usage, husage, rfl⟩ := List.mem_map.mp htext
    obtain ⟨hblank, hmark⟩ := argument_usageText (h usage husage) hc
    refine ⟨hblank, ?_⟩
    rintro rfl
    exact hmark (by decide)

/-- Neither blanks nor parentheses stand in the arguments of a written signature. -/
lemma mem_usageTexts {usages : List TypeUsage} {c : Char}
    (h : ∀ usage ∈ usages, IsPlain (r.shortName usage.base))
    (hc : c ∈ (join "," (usages.map r.usageText)).toList) :
    isBlank c = false ∧ c ≠ '(' ∧ c ≠ ')' := by
  rcases eq_or_mem_of_mem_join (d := ',') hc with rfl | ⟨text, htext, hc⟩
  · decide
  · obtain ⟨usage, husage, rfl⟩ := List.mem_map.mp htext
    obtain ⟨hblank, hmark⟩ := argument_usageText (h usage husage) hc
    simp only [List.mem_cons, List.not_mem_nil, or_false, not_or] at hmark
    exact ⟨hblank, hmark.1, hmark.2.1⟩

/-- A signature with plain names is taken apart as it was put together. -/
lemma parse_signatureText (howner : IsPlain (r.shortName m.declaringType)) (hname : IsPlain m.name)
    (husages : ∀ usage ∈ m.parameters, IsPlain (r.shortName usage.base)) :
    Reference.parse (trim (r.signatureText m)) =
      .ok ⟨r.shortName m.declaringType, m.name, m.parameters.map r.usageText⟩ := by
  have htrimmed : Trimmed (r.signatureText m).toList := by
    apply Trimmed.of_forall
    intro c hc
    simp only [toList_signatureText, List.mem_append, List.mem_cons, List.not_mem_nil,
      or_false] at hc
    rcases hc with hc | rfl | hc | rfl | hc | rfl
    · exact (howner.2 c hc).1
    · decide
    · exact (hname.2 c hc).1
    · decide
    · exact (mem_usageTexts husages hc).1
    · decide
  have hparse := Reference.parse_eq_ok (toList_signatureText r m) (howner.not_mem (by decide))
    howner.trimChars_ne_nil (hname.not_mem (by decide)) hname.trimChars_ne_nil
    (fun c hc => (mem_usageTexts husages hc).2) ?_
  · rw [trim_eq_self htrimmed, hparse, howner.trimmed.trimChars_eq, hname.trimmed.trimChars_eq,
      String.ofList_toList, String.ofList_toList, argumentTexts_usageTexts husages]
  · rw [argumentTexts_usageTexts husages]
    intro hempty
    obtain ⟨usage, husage, heq⟩ := List.mem_map.mp hempty
    exact usageText_ne_nil (husages usage husage) (String.toList_eq_nil_iff.mpr heq)

/-- A signature is read back from its text. -/
lemma Built.readSignature_signatureText (h : r.Built) (hnames : r.AllNames IsPlain)
    (hm : r.HasSignature m) : r.readSignature (r.signatureText m) = .ok m := by
  obtain ⟨howner, hname, husages⟩ := hm.allNames h hnames
  obtain ⟨t, ht, -⟩ := declares_iff.mp hm.declares
  have hlt : m.declaringType.index < r.size := (List.getElem?_eq_some_iff.mp ht).1
  rw [readSignature_eq_ok_iff]
  have hnearest : r.NearestDeclaration m.declaringType m :=
    findMethod_eq_some_iff.mp (findMethod_of_declares hm.declares)
  refine ⟨_, m.declaringType, parse_signatureText howner hname husages,
    ⟨h.resolve_shortName hlt, ?_⟩, rfl, hnearest⟩
  rw [List.forall₂_map_left_iff, List.forall₂_same]
  exact fun usage husage => h.resolveUsage_usageText hnames (hm.parameters usage husage)

/-! ## Characters -/

lemma mem_usageText_of_isWord (hname : IsWord (r.shortName usage.base)) {c : Char}
    (hc : c ∈ (r.usageText usage).toList) :
    isAlphanumeric c = true ∨ c ∈ ['[', ']', '.', '_', '$'] := by
  rcases mem_usageText hc with hc | rfl | rfl
  · exact hname.allows (by simp) hc
  · simp
  · simp

lemma mem_signatureText_of_isWord (howner : IsWord (r.shortName m.declaringType))
    (hname : IsWord m.name) (husages : ∀ usage ∈ m.parameters, IsWord (r.shortName usage.base))
    {c : Char} (hc : c ∈ (r.signatureText m).toList) :
    isAlphanumeric c = true ∨ c ∈ ['#', ',', '(', ')', '[', ']', '.', '_', '$'] := by
  simp only [toList_signatureText, List.mem_append, List.mem_cons, List.not_mem_nil,
    or_false] at hc
  rcases hc with hc | rfl | hc | rfl | hc | rfl
  · exact howner.allows (by simp) hc
  · simp
  · exact hname.allows (by simp) hc
  · simp
  · rcases eq_or_mem_of_mem_join (d := ',') hc with rfl | ⟨text, htext, hc⟩
    · simp
    · obtain ⟨usage, husage, rfl⟩ := List.mem_map.mp htext
      rcases mem_usageText hc with hc | rfl | rfl
      · exact (husages usage husage).allows (by simp) hc
      · simp
      · simp
  · simp

end Registry

end RuleMetrics
