import Mathlib.Data.String.Basic
import RuleMetrics.Proofs.Registry.Ancestry
import RuleMetrics.Proofs.Registry.Correspondence

/-!
# Catalogs in another order

A catalog may list its types in any order in which parents come first.  Another such order gives
other ids to the types, but the registry that comes out gives the same answers when types are named
and not numbered (`Registry.SameAnswers`).

A name could mean something else in the middle of the other run, since aliases go before qualified
names.  But then the two entries in question have a name in common, and no order of them is built
(`Catalog.Frozen.namesApart`).  So the other order is built too (`Catalog.Frozen.exists_build`), and
step by step its answers are about the types of the same entries.
-/

namespace RuleMetrics

open Builder

variable {b b' : Builder} {c c' : Catalog} {r r' : Registry} {entry : CatalogEntry}
  {id id' : TypeId} {text name : String}

/-! ## Building the other order -/

/-- The methods of an entry are declared when all of them can be read. -/
lemma CatalogEntry.exists_declareMethods {b₀ : Builder} (h : b₀.SameNames b)
    (hreads : ∀ text ∈ entry.methods, ∃ m, readMethod b₀ entry.name text = .ok m) :
    ∃ b', declareMethods b (id, entry) = .ok b' ∧ b₀.SameNames b' := by
  refine List.exists_foldlM (fun _ next => b₀.SameNames next) h ?_
  rintro done text rest b₁ hmethods hnames
  obtain ⟨m, hm⟩ := hreads text (by
    change entry.methods = done ++ text :: rest at hmethods
    simp [hmethods])
  refine ⟨b₁.addMethod id m, ?_, hnames.addMethod id m⟩
  rw [Except.bind_eq_ok_iff]
  refine ⟨m, ?_, rfl⟩
  rw [readMethod_eq_of_lookup hnames.lookup_eq]
  exact hm

/-- A catalog is built when its types can be declared and its methods can be read with their
names. -/
lemma Catalog.exists_build {declared : List (TypeId × CatalogEntry)}
    (htypes : c.declareTypes = .ok (b, declared)) (hapart : NamesApart c.entries)
    (hreads : ∀ e ∈ c.entries, ∀ text ∈ e.methods,
      ∃ m, CatalogEntry.readMethod b e.name text = .ok m) :
    ∃ r, c.build = .ok r := by
  have hdeclared := declared_of_declareTypes htypes
  have hentries : ∀ d ∈ declared, d.2 ∈ c.entries := by
    rintro ⟨id, e⟩ hd
    obtain ⟨i, hi⟩ := List.getElem?_of_mem hd
    rw [hdeclared.getElem?_eq, Option.map_eq_some_iff] at hi
    obtain ⟨e', he', heq⟩ := hi
    rw [← (Prod.mk.inj heq).2]
    exact List.mem_of_getElem? he'
  have hmethods : ∃ b', declared.foldlM CatalogEntry.declareMethods b = .ok b' ∧
      b.SameNames b' := by
    refine List.exists_foldlM (fun _ next => b.SameNames next) ⟨hdeclared.reachable, rfl, rfl⟩ ?_
    rintro done ⟨id, e⟩ rest b₁ hdone hnames
    have he : (id, e) ∈ declared := by
      simp [hdone]
    exact CatalogEntry.exists_declareMethods hnames (hreads e (hentries _ he))
  obtain ⟨b', hfold, hnames⟩ := hmethods
  have hnamed := (Named.of_declareTypes htypes).of_sameNames hnames
  exact ⟨_, build_of_halves htypes hfold
    (build_eq_ok_iff.mpr ⟨hnamed.unshadowed_iff.mpr hapart, rfl⟩)⟩

/-- A registry with the tables that it was frozen from, and the catalog that filled them. -/
structure Catalog.Frozen (c : Catalog) (b : Builder) (r : Registry) : Prop where
  recorded : c.Recorded b
  named : Named c.entries b
  build : b.build = .ok r

namespace Catalog

lemma exists_frozen (h : c.build = .ok r) : ∃ b, c.Frozen b r := by
  obtain ⟨b₁, b, declared, htypes, hmethods, hbuild⟩ := halves_of_build h
  have hfilled := filled_of_declareMethods (declared_of_declareTypes htypes) hmethods
  exact ⟨b, recorded_of_halves htypes hmethods (unshadowed_of_build hbuild),
    (Named.of_declareTypes htypes).of_sameNames hfilled.names, hbuild⟩

namespace Frozen

lemma namesApart (h : c.Frozen b r) : NamesApart c.entries :=
  h.named.unshadowed_iff.mp (unshadowed_of_build h.build)

/-- The same entries in an order with parents first make a registry too. -/
lemma exists_build (h : c.Frozen b r) (hperm : c.entries.Perm c'.entries)
    (hparents : ParentsFirst c'.entries) : ∃ r', c'.build = .ok r' := by
  have hapart' := (namesApart_iff_of_perm hperm).mp h.namesApart
  obtain ⟨b', declared, htypes⟩ := exists_declareTypes hapart' hparents
  refine Catalog.exists_build htypes hapart' ?_
  intro e he text htext
  obtain ⟨i, hi⟩ := List.getElem?_of_mem (hperm.mem_iff.mpr he)
  obtain ⟨t, -, hrecorded⟩ := h.recorded.types i e hi
  obtain ⟨m, -, hm⟩ := hrecorded.methods.exists_of_mem htext
  obtain ⟨m', hm', -⟩ := CatalogEntry.exists_readMethod
    (h.named.exists_lookup (Named.of_declareTypes htypes) h.namesApart hperm) hm
  exact ⟨m', hm'⟩

/-! ## The types of an entry -/

lemma consistent (h : c.Frozen b r) : r.Consistent :=
  consistent_of_build h.recorded.reachable.sound h.build

lemma resolve_eq (h : c.Frozen b r) : r.resolve = b.lookup :=
  resolve_of_build h.recorded.reachable.sound.toDistinct h.build

lemma exists_declaration (h : c.Frozen b r) (he : c.entries[id.index]? = some entry) :
    ∃ t, r.declaration? id = some t ∧ entry.Recorded b t := by
  unfold Registry.declaration?
  rw [types_of_build h.build]
  exact h.recorded.types id.index entry he

lemma qualifiedName_eq (h : c.Frozen b r) (he : c.entries[id.index]? = some entry) :
    r.qualifiedName id = entry.name := by
  obtain ⟨t, ht, hrecorded⟩ := h.exists_declaration he
  unfold Registry.qualifiedName
  rw [ht]
  exact hrecorded.name

/-! ## Answers about the same entry -/

section Same

variable (h : c.Frozen b r) (h' : c'.Frozen b' r')

include h h'

lemma biUnique : Relator.BiUnique (SameEntry c.entries c'.entries) :=
  sameEntry_biUnique h.namesApart h'.namesApart

lemma qualifiedName_eq_of_same (hid : SameEntry c.entries c'.entries id id') :
    r.qualifiedName id = r'.qualifiedName id' := by
  obtain ⟨e, he, he'⟩ := hid
  rw [h.qualifiedName_eq he, h'.qualifiedName_eq he']

variable (hperm : c.entries.Perm c'.entries)

include hperm

lemma exists_resolve (hname : r.resolve name = some id) :
    ∃ id', r'.resolve name = some id' ∧ SameEntry c.entries c'.entries id id' := by
  rw [h.resolve_eq] at hname
  rw [h'.resolve_eq]
  exact h.named.exists_lookup h'.named h.namesApart hperm name id hname

lemma exists_parent (hid : SameEntry c.entries c'.entries id id') {p : TypeId}
    (hp : r.parent? id = some p) :
    ∃ p', r'.parent? id' = some p' ∧ SameEntry c.entries c'.entries p p' := by
  obtain ⟨e, he, he'⟩ := hid
  obtain ⟨t, ht, hrecorded⟩ := h.exists_declaration he
  obtain ⟨t', ht', hrecorded'⟩ := h'.exists_declaration he'
  unfold Registry.parent? at hp ⊢
  rw [ht, Option.bind_some] at hp
  rw [ht', Option.bind_some]
  have hparent := hrecorded.parent
  rw [hp, Option.map_some] at hparent
  obtain ⟨text, htext, hlookup⟩ := Option.map_eq_some_iff.mp hparent
  obtain ⟨p', hlookup', hsame⟩ := h.named.exists_lookup h'.named h.namesApart hperm text p hlookup
  have hparent' := hrecorded'.parent
  rw [htext, Option.map_some, hlookup'] at hparent'
  obtain ⟨q, hq, hqp⟩ := Option.map_eq_some_iff.mp hparent'.symm
  cases hqp
  exact ⟨p', hq, hsame⟩

/-- The walks to the root pass the types of the same entries.  The induction is on the place of the
type in the first order. -/
lemma ancestors_same (hid : SameEntry c.entries c'.entries id id') :
    List.Forall₂ (SameEntry c.entries c'.entries) (r.ancestors id) (r'.ancestors id') := by
  induction hn : id.index using Nat.strong_induction_on generalizing id id' with
  | _ n ih =>
    cases hp : r.parent? id with
    | some p =>
      obtain ⟨p', hp', hsame⟩ := h.exists_parent h' hperm hid hp
      obtain ⟨t, ht, htp⟩ := Option.bind_eq_some_iff.mp hp
      have hlt : p.index < id.index := h.consistent.parent_lt id p t ht htp
      rw [Registry.ancestors_of_parent? h.consistent hp,
        Registry.ancestors_of_parent? h'.consistent hp']
      exact List.Forall₂.cons hid (ih p.index (hn ▸ hlt) hsame rfl)
    | none =>
      have hp' : r'.parent? id' = none := by
        rw [Option.eq_none_iff_forall_ne_some]
        intro p' hp'
        obtain ⟨p, hp'', -⟩ := h'.exists_parent h hperm.symm hid.symm hp'
        rw [hp] at hp''
        cases hp''
      obtain ⟨e, he, he'⟩ := hid
      obtain ⟨t, ht, -⟩ := h.exists_declaration he
      obtain ⟨t', ht', -⟩ := h'.exists_declaration he'
      rw [Registry.ancestors_of_root ht hp, Registry.ancestors_of_root ht' hp']
      exact List.Forall₂.cons ⟨e, he, he'⟩ List.Forall₂.nil

/-- The methods of the types of one entry correspond. -/
lemma exists_methods_same (hid : SameEntry c.entries c'.entries id id') :
    ∃ t t', r.declaration? id = some t ∧ r'.declaration? id' = some t' ∧
      List.Forall₂ (MethodDeclaration.Corresponds (SameEntry c.entries c'.entries))
        t.methods t'.methods := by
  obtain ⟨e, he, he'⟩ := hid
  obtain ⟨t, ht, hrecorded⟩ := h.exists_declaration he
  obtain ⟨t', ht', hrecorded'⟩ := h'.exists_declaration he'
  have hlookup := h.named.exists_lookup h'.named h.namesApart hperm
  obtain ⟨methods, hread, hcorrespond⟩ := hrecorded.methods.exists_forall₂
    fun _ _ _ hm => CatalogEntry.exists_readMethod hlookup hm
  -- the texts are read in one way only
  have hsame : methods = t'.methods := by
    have hread := List.mapM_eq_ok_iff.mpr hread
    rw [List.mapM_eq_ok_iff.mpr hrecorded'.methods] at hread
    exact (Except.ok.inj hread).symm
  exact ⟨t, t', ht, ht', hsame ▸ hcorrespond⟩

lemma declares_same (hid : SameEntry c.entries c'.entries id id')
    {parameters parameters' : List TypeUsage}
    (hparameters : List.Forall₂ (TypeUsage.Corresponds (SameEntry c.entries c'.entries))
      parameters parameters') (name : String) :
    r.declares id name parameters = r'.declares id' name parameters' := by
  obtain ⟨t, t', ht, ht', hmethods⟩ := h.exists_methods_same h' hperm hid
  unfold Registry.declares
  simp only [ht, ht']
  exact MethodDeclaration.Corresponds.any_eq (h.biUnique h') hmethods hparameters name

lemma exists_findMethod (hid : SameEntry c.entries c'.entries id id')
    {parameters parameters' : List TypeUsage}
    (hparameters : List.Forall₂ (TypeUsage.Corresponds (SameEntry c.entries c'.entries))
      parameters parameters') {found : TypeId}
    (hfound : r.findMethod id name parameters = some found) :
    ∃ found', r'.findMethod id' name parameters' = some found' ∧
      SameEntry c.entries c'.entries found found' :=
  (h.ancestors_same h' hperm hid).find?_eq_some
    (fun _ _ hsame => h.declares_same h' hperm hsame hparameters name) hfound

end Same

end Frozen

end Catalog

end RuleMetrics
