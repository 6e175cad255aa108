import RuleMetrics.Proofs.Registry.Catalog
import RuleMetrics.Proofs.Registry.MethodText
import RuleMetrics.Proofs.Registry.Resolution

/-!
# Methods of a catalog can be referenced

A catalog and a reference spell methods in almost the same way, but they are read by two readers: a
catalog looks for the last `)` of a method and a reference for the first, and only the reader of
references trims the arguments before they are looked up.  When no name holds a character that has
a meaning in a reference, the two agree (`readSignature_eq_ok`).

`declared_methods_referable` puts this together with the way up to an ancestor: a method that a
catalog lists is found, as the catalog has it, from every type that inherits it.
-/

namespace RuleMetrics

open Text

variable {b : Builder} {r : Registry} {id : TypeId} {text name owner : String}
  {m : MethodDeclaration}

/-! ## Plain names -/

/-- The types of a catalog and the aliases that it lists have plain names. -/
def Catalog.PlainNames (c : Catalog) : Prop :=
  ∀ entry ∈ c.entries, IsPlain entry.name ∧ ∀ name ∈ entry.aliases, IsPlain name

lemma isPlain_of_shortcutFor (h : shortcutFor owner = some name) : IsPlain name := by
  have hall : ∀ entry ∈ shortcuts, IsPlain entry.2 := by
    decide +kernel
  exact hall (owner, name) (mem_of_lookup h)

/-- Every alias of a catalog with plain names is plain, listed or well-known. -/
lemma Catalog.PlainNames.isPlain_alias {c : Catalog} (h : c.PlainNames) {entry : CatalogEntry}
    (hentry : entry ∈ c.entries) (hname : name ∈ entry.declaredAliases) : IsPlain name := by
  unfold CatalogEntry.declaredAliases at hname
  split at hname
  · exact isPlain_of_shortcutFor (Option.mem_toList.mp hname)
  · exact (h entry hentry).2 name hname

/-- A name that means something in the tables of a catalog is plain. -/
lemma Catalog.PlainNames.isPlain {c : Catalog} (h : c.PlainNames) (hrecorded : c.Recorded b)
    (hlookup : b.lookup name = some id) : IsPlain name := by
  unfold Builder.lookup findNamed at hlookup
  split at hlookup
  · next other halias =>
    obtain ⟨entry, hentry, hname⟩ := hrecorded.aliases name other (mem_of_lookup halias)
    exact h.isPlain_alias hentry hname
  · obtain ⟨t, ht, rfl⟩ := exists_of_findQualified hlookup
    have hi : id.index < c.entries.length := by
      rw [← hrecorded.length]
      exact (List.getElem?_eq_some_iff.mp ht).1
    have hentry : c.entries[id.index]? = some c.entries[id.index] := List.getElem?_eq_getElem hi
    obtain ⟨t', ht', htype⟩ := hrecorded.types id.index _ hentry
    rw [ht] at ht'
    cases ht'
    rw [htype.name]
    exact (h _ (List.mem_of_getElem? hentry)).1

/-! ## The two readers -/

lemma not_parenthesis_of_isBlank {c : Char} (hc : isBlank c = true) : c ≠ '(' ∧ c ≠ ')' := by
  constructor
  · rintro rfl
    exact absurd hc (by decide)
  · rintro rfl
    exact absurd hc (by decide)

/-- The arguments of a method hold no parentheses when no name does. -/
lemma not_parenthesis_of_forall₂ {interior : List Char} {parameters : List TypeUsage}
    (hplain : ∀ name id, b.lookup name = some id → IsPlain name)
    (h : List.Forall₂ (fun piece usage => b.resolveUsage (String.ofList piece) = .ok usage)
      (pieces ',' interior) parameters) : ∀ c ∈ interior, c ≠ '(' ∧ c ≠ ')' := by
  intro c hc
  rcases eq_or_mem_piece_of_mem ',' hc with rfl | ⟨piece, hpiece, hc⟩
  · decide
  obtain ⟨usage, -, husage⟩ := h.exists_of_mem hpiece
  obtain ⟨name, -, hlookup, hchars⟩ := TypeUsage.exists_name_of_read husage
  rw [String.toList_ofList] at hchars
  rcases hchars c hc with hname | hblank | rfl | rfl
  · have hmeaning := ((hplain name _ hlookup).2 c hname).2
    constructor
    · rintro rfl
      exact hmeaning (by decide)
    · rintro rfl
      exact hmeaning (by decide)
  · exact not_parenthesis_of_isBlank hblank
  · decide
  · decide

/-- The arguments that a reference finds in the text of a method mean its parameters. -/
lemma forall₂_argumentTexts {interior : List Char} {parameters : List TypeUsage}
    (h : ReadsArguments b interior parameters) :
    List.Forall₂ (fun argument usage => b.resolveUsage argument = .ok usage)
      (Reference.argumentTexts interior) parameters := by
  unfold Reference.argumentTexts
  rcases h with ⟨hblank, rfl⟩ | ⟨hblank, hpieces⟩
  · rw [if_pos hblank]
    exact List.Forall₂.nil
  · rw [if_neg (Bool.eq_false_iff.mp hblank), List.forall₂_map_left_iff]
    exact hpieces.imp fun piece usage husage => TypeUsage.read_trimChars piece husage

/-- A reference to a method of a catalog has the parts of the method. -/
lemma parse_of_readMethod (hplain : ∀ name id, b.lookup name = some id → IsPlain name)
    (hname : IsPlain name) (hread : CatalogEntry.readMethod b owner text = .ok m) :
    ∃ arguments, Reference.parse (trim (name ++ "#" ++ text)) = .ok ⟨name, m.name, arguments⟩ ∧
      List.Forall₂ (fun argument usage => b.resolveUsage argument = .ok usage)
        arguments m.parameters := by
  obtain ⟨before, interior, htext, hopening, hmethod, hmname, harguments⟩ :=
    CatalogEntry.readMethod_eq_ok_iff.mp hread
  obtain ⟨lead, hlead, hend⟩ := trimEndChars_eq_append_trimChars text.toList
  have hmethodName : trimChars (lead ++ before) = trimChars before := trimChars_blank_append hlead
  refine ⟨Reference.argumentTexts interior, ?_, forall₂_argumentTexts harguments⟩
  have hinput : (trim (name ++ "#" ++ text)).toList =
      name.toList ++ '#' :: (lead ++ before ++ '(' :: (interior ++ [')'])) := by
    have hmark : "#".toList = ['#'] := rfl
    rw [trim, String.toList_ofList, String.toList_append, String.toList_append, hmark,
      List.append_assoc, List.singleton_append,
      trimChars_append_cons hname.trimmed.head (by decide), hend, htext]
    simp only [List.append_assoc]
  have hparse := Reference.parse_eq_ok hinput (hname.not_mem (by decide)) ?_ ?_ ?_ ?_ ?_
  · rw [hparse, hname.trimmed.trimChars_eq, String.ofList_toList, hmethodName, hmname]
  · exact hname.trimChars_ne_nil
  · rw [List.mem_append, not_or]
    refine ⟨?_, hopening⟩
    intro hmem
    exact absurd (allBlank_iff.mp hlead _ hmem) (by decide)
  · rwa [hmethodName]
  · rcases harguments with ⟨hblank, -⟩ | ⟨-, hpieces⟩
    · exact fun c hc => not_parenthesis_of_isBlank (allBlank_iff.mp hblank c hc)
    · exact not_parenthesis_of_forall₂ hplain hpieces
  · intro hempty
    obtain ⟨usage, -, husage⟩ := (forall₂_argumentTexts harguments).exists_of_mem hempty
    exact TypeUsage.trimChars_ne_nil_of_read [] husage rfl

/-- A reference to a method of a catalog is resolved to the type where the method is found. -/
lemma readSignature_eq_ok (hresolve : r.resolve = b.lookup)
    (hplain : ∀ name id, b.lookup name = some id → IsPlain name)
    (hread : CatalogEntry.readMethod b owner text = .ok m) (hname : r.resolve name = some id)
    {declaringType : TypeId}
    (hfind : r.findMethod id m.name m.parameters = some declaringType) :
    r.readSignature (name ++ "#" ++ text) = .ok ⟨declaringType, m.name, m.parameters⟩ := by
  obtain ⟨arguments, hparse, harguments⟩ :=
    parse_of_readMethod hplain (hplain name id (hresolve ▸ hname)) hread
  rw [Registry.readSignature_eq_ok_iff]
  refine ⟨_, id, hparse, ⟨hname, ?_⟩, rfl, Registry.findMethod_eq_some_iff.mp hfind⟩
  refine harguments.imp ?_
  intro argument usage husage
  unfold Registry.resolveUsage
  rwa [hresolve]

/-- **Methods of a catalog can be referenced.**  Let a catalog with plain names be built.  Then the
method in place `j` of entry `i` is recorded in place `j` of type `i`, and a reference that is put
together from its text and any name of a type `d` is read as that method of type `i`, whenever `d`
is the type itself or inherits from it without a type in between that declares the same method. -/
theorem declared_methods_referable {c : Catalog} {r : Registry} (hbuild : c.build = .ok r)
    (hplain : c.PlainNames) {i j : Nat} {entry : CatalogEntry} {text : String}
    (hentry : c.entries[i]? = some entry) (htext : entry.methods[j]? = some text) :
    ∃ t m, r.types[i]? = some t ∧ t.methods[j]? = some m ∧
      ∀ (d : TypeId) (below : List TypeId) (name : String), r.Chain ⟨i⟩ d below →
        (∀ id ∈ below, r.declares id m.name m.parameters = false) → r.resolve name = some d →
        r.readSignature (name ++ "#" ++ text) = .ok ⟨⟨i⟩, m.name, m.parameters⟩ := by
  obtain ⟨b, hrecorded, hfrozen⟩ := Catalog.exists_builder hbuild
  have hsound := hrecorded.reachable.sound
  have hresolve : r.resolve = b.lookup := Builder.resolve_of_build hsound.toDistinct hfrozen
  obtain ⟨t, ht, htype⟩ := hrecorded.types i entry hentry
  rw [← Builder.types_of_build hfrozen] at ht
  obtain ⟨m, hm, hread⟩ := htype.methods.exists_of_getElem? htext
  refine ⟨t, m, ht, hm, ?_⟩
  intro d below name hchain hbelow hname
  have hdeclares : r.declares ⟨i⟩ m.name m.parameters = true :=
    Registry.declares_iff.mpr ⟨t, ht, List.mem_of_getElem? hm⟩
  have hfind : r.findMethod d m.name m.parameters = some ⟨i⟩ :=
    hchain.findMethod_eq (Builder.consistent_of_build hsound hfrozen) hbelow hdeclares
  exact readSignature_eq_ok hresolve (fun _ _ h => hplain.isPlain hrecorded h) hread hname hfind

lemma plainNames_smallCatalog : smallCatalog.PlainNames := by
  unfold Catalog.PlainNames
  decide

/-- The methods of both classes, from `java.lang.String`: one that it inherits, and its own. -/
theorem declared_methods_referable_smallCatalog :
    smallRegistry.readSignature ("Text" ++ "#" ++ " hash ( ) ") = .ok ⟨⟨0⟩, "hash", []⟩ ∧
      smallRegistry.readSignature ("java.lang.String" ++ "#" ++
        "join( char [][] ,java.lang.String)") = .ok ⟨⟨1⟩, "join", [⟨⟨2⟩, 2⟩, ⟨⟨1⟩, 0⟩]⟩ := by
  constructor
  · obtain ⟨t, m, ht, hm, hread⟩ := declared_methods_referable (i := 0) (j := 1)
      build_smallCatalog plainNames_smallCatalog rfl rfl
    cases ht
    cases hm
    exact hread ⟨1⟩ [⟨1⟩] "Text" (.up rfl .here) (by decide) rfl
  · obtain ⟨t, m, ht, hm, hread⟩ := declared_methods_referable (i := 1) (j := 0)
      build_smallCatalog plainNames_smallCatalog rfl rfl
    cases ht
    cases hm
    exact hread ⟨1⟩ [] "java.lang.String" .here (by decide) rfl

end RuleMetrics
