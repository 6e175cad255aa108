import RuleMetrics.Proofs.Registry.EntryNames
import RuleMetrics.Proofs.Registry.MethodText

/-!
# Reading with corresponding names

Two tables may give different ids to the same types.  Let a relation say which ids correspond.  When
every name means corresponding types in both tables, a usage of a type is read as corresponding
usages (`TypeUsage.exists_read`), and the text of a method as corresponding methods
(`CatalogEntry.exists_readMethod`).  Nothing else of the tables is looked at.

The relation in use is `Catalog.SameEntry`: types correspond when the same entry describes them, in
two lists of entries that may stand in different order.
-/

namespace RuleMetrics

variable {b b' : Builder} {R : TypeId → TypeId → Prop} {id id' : TypeId} {owner text : String}

/-! ## Usages and methods -/

/-- Usages of corresponding types with equally many dimensions. -/
structure TypeUsage.Corresponds (R : TypeId → TypeId → Prop) (usage usage' : TypeUsage) : Prop where
  base : R usage.base usage'.base
  dimensions : usage.dimensions = usage'.dimensions

/-- Methods of the same name with corresponding parameters. -/
structure MethodDeclaration.Corresponds (R : TypeId → TypeId → Prop) (m m' : MethodDeclaration) :
    Prop where
  name : m.name = m'.name
  parameters : List.Forall₂ (TypeUsage.Corresponds R) m.parameters m'.parameters

lemma TypeUsage.exists_read {lookup lookup' : String → Option TypeId} {usage : TypeUsage}
    (hlookup : ∀ name id, lookup name = some id → ∃ id', lookup' name = some id' ∧ R id id')
    (h : read lookup text = .ok usage) :
    ∃ usage', read lookup' text = .ok usage' ∧ Corresponds R usage usage' := by
  obtain ⟨hfew, hbase, hname, hdimensions⟩ := read_eq_ok_iff.mp h
  obtain ⟨id', hname', hid⟩ := hlookup _ _ hname
  exact ⟨⟨id', usage.dimensions⟩, read_eq_ok_iff.mpr ⟨hfew, hbase, hname', hdimensions⟩, hid, rfl⟩

/-- The text of a method is read as corresponding methods. -/
lemma CatalogEntry.exists_readMethod {m : MethodDeclaration}
    (hlookup : ∀ name id, b.lookup name = some id → ∃ id', b'.lookup name = some id' ∧ R id id')
    (h : readMethod b owner text = .ok m) :
    ∃ m', readMethod b' owner text = .ok m' ∧ m.Corresponds R m' := by
  obtain ⟨before, interior, htext, hopening, hbefore, hname, harguments⟩ :=
    readMethod_eq_ok_iff.mp h
  have hparameters : ∃ parameters', ReadsArguments b' interior parameters' ∧
      List.Forall₂ (TypeUsage.Corresponds R) m.parameters parameters' := by
    rcases harguments with ⟨hblank, hnone⟩ | ⟨hblank, hpieces⟩
    · rw [hnone]
      exact ⟨[], Or.inl ⟨hblank, rfl⟩, List.Forall₂.nil⟩
    · obtain ⟨parameters', hpieces', hcorrespond⟩ := hpieces.exists_forall₂
        fun _ _ _ husage => TypeUsage.exists_read hlookup husage
      exact ⟨parameters', Or.inr ⟨hblank, hpieces'⟩, hcorrespond⟩
  obtain ⟨parameters', harguments', hcorrespond⟩ := hparameters
  exact ⟨⟨m.name, parameters'⟩, readMethod_eq_ok_iff.mpr
    ⟨before, interior, htext, hopening, hbefore, hname, harguments'⟩, rfl, hcorrespond⟩

lemma TypeUsage.Corresponds.biUnique (h : Relator.BiUnique R) :
    Relator.BiUnique (TypeUsage.Corresponds R) := by
  constructor
  · rintro ⟨base, n⟩ ⟨base', n'⟩ ⟨other, m⟩ ⟨hbase, hn⟩ ⟨hbase', hn'⟩
    obtain rfl : base = base' := h.1 hbase hbase'
    obtain rfl : n = n' := hn.trans hn'.symm
    rfl
  · rintro ⟨other, m⟩ ⟨base, n⟩ ⟨base', n'⟩ ⟨hbase, hn⟩ ⟨hbase', hn'⟩
    obtain rfl : base = base' := h.2 hbase hbase'
    obtain rfl : n = n' := hn.symm.trans hn'
    rfl

/-- Among corresponding methods there is one with given parameters when there is one with the
corresponding parameters. -/
lemma MethodDeclaration.Corresponds.any_eq (h : Relator.BiUnique R)
    {methods methods' : List MethodDeclaration} {parameters parameters' : List TypeUsage}
    (hmethods : List.Forall₂ (MethodDeclaration.Corresponds R) methods methods')
    (hparameters : List.Forall₂ (TypeUsage.Corresponds R) parameters parameters') (name : String) :
    (methods.any fun m => m.name == name && m.parameters == parameters) =
      methods'.any fun m => m.name == name && m.parameters == parameters' := by
  have hunique := (TypeUsage.Corresponds.biUnique h).forall₂
  induction hmethods with
  | nil => rfl
  | @cons m m' methods methods' hm _ ih =>
    have hsame : (m.parameters == parameters) = (m'.parameters == parameters') := by
      rw [Bool.eq_iff_iff, beq_iff_eq, beq_iff_eq]
      exact Relator.rel_eq hunique hm.parameters hparameters
    rw [List.any_cons, List.any_cons, hm.name, hsame, ih]

/-! ## Entries in another order -/

namespace Catalog

variable {entries entries' : List CatalogEntry}

/-- The types that the same entry describes. -/
def SameEntry (entries entries' : List CatalogEntry) (id id' : TypeId) : Prop :=
  ∃ e, entries[id.index]? = some e ∧ entries'[id'.index]? = some e

lemma SameEntry.symm (h : SameEntry entries entries' id id') : SameEntry entries' entries id' id :=
  h.imp fun _ ⟨he, he'⟩ => ⟨he', he⟩

lemma sameEntry_biUnique (hapart : NamesApart entries) (hapart' : NamesApart entries') :
    Relator.BiUnique (SameEntry entries entries') := by
  constructor
  · rintro id₁ id₂ id ⟨e, he, hid⟩ ⟨e', he', hid'⟩
    obtain rfl : e = e' := Option.some.inj (hid.symm.trans hid')
    exact TypeId.eq_of_index_eq (hapart.eq_of_getElem? he he' (Or.inl rfl) (Or.inl rfl))
  · rintro id id₁ id₂ ⟨e, hid, he⟩ ⟨e', hid', he'⟩
    obtain rfl : e = e' := Option.some.inj (hid.symm.trans hid')
    exact TypeId.eq_of_index_eq (hapart'.eq_of_getElem? he he' (Or.inl rfl) (Or.inl rfl))

lemma exists_sameEntry (hsub : entries ⊆ entries') {e : CatalogEntry}
    (he : entries[id.index]? = some e) :
    ∃ id', entries'[id'.index]? = some e ∧ SameEntry entries entries' id id' := by
  obtain ⟨i, hi⟩ := List.getElem?_of_mem (hsub (List.mem_of_getElem? he))
  exact ⟨⟨i⟩, hi, e, he, hi⟩

/-- A name means corresponding types in the tables of entries in another order. -/
lemma Named.exists_lookup (h : Named entries b) (h' : Named entries' b')
    (hapart : NamesApart entries) (hperm : entries.Perm entries') :
    ∀ name id, b.lookup name = some id →
      ∃ id', b'.lookup name = some id' ∧ SameEntry entries entries' id id' := by
  intro name id hlookup
  obtain ⟨e, he, hname⟩ := (h.lookup_eq_some_iff (h.unshadowed_iff.mpr hapart)).mp hlookup
  obtain ⟨id', he', hsame⟩ := exists_sameEntry hperm.subset he
  have hapart' := (namesApart_iff_of_perm hperm).mp hapart
  exact ⟨id', (h'.lookup_eq_some_iff (h'.unshadowed_iff.mpr hapart')).mpr ⟨e, he', hname⟩, hsame⟩

end Catalog

end RuleMetrics
