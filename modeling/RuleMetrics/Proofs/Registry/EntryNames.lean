import RuleMetrics.Proofs.Registry.Catalog

/-!
# The names of catalog entries

A text names an entry when it is the name of the type or one of its aliases.  The types and aliases
of a catalog can be declared when no text names two entries (`Catalog.NamesApart`) and every parent
is named by an entry further up (`Catalog.ParentsFirst`); `Catalog.exists_declareTypes` shows that
nothing else is needed.  In the tables that come out a name means the type of the entry that it
names (`Catalog.Named.lookup_eq_some_iff`), so the look-up of a catalog can be read off its entries.

`NamesApart` is also what the last check of a builder comes to (`Catalog.Named.unshadowed_iff`).
-/

namespace RuleMetrics

open Builder

variable {b b' : Builder} {c : Catalog} {r : Registry} {entry : CatalogEntry} {id : TypeId}
  {entries : List CatalogEntry} {text name : String}

lemma TypeId.eq_of_index_eq {id id' : TypeId} (h : id.index = id'.index) : id = id' := by
  cases id
  cases id'
  exact congrArg TypeId.mk h

/-- A text is the name of an entry or one of its aliases. -/
def CatalogEntry.IsNamed (entry : CatalogEntry) (text : String) : Prop :=
  text = entry.name ∨ text ∈ entry.declaredAliases

instance (entry : CatalogEntry) (text : String) : Decidable (entry.IsNamed text) :=
  inferInstanceAs (Decidable (text = entry.name ∨ text ∈ entry.declaredAliases))

/-- No text names two of the entries. -/
def Catalog.NamesApart (entries : List CatalogEntry) : Prop :=
  entries.Pairwise fun e e' => ∀ text, e.IsNamed text → ¬e'.IsNamed text

/-- Every parent is named by an entry before the one that has it. -/
def Catalog.ParentsFirst (entries : List CatalogEntry) : Prop :=
  ∀ (i : Nat) (h : i < entries.length), ∀ text ∈ entries[i].parent,
    ∃ p ∈ entries.take i, p.IsNamed text

instance (entries : List CatalogEntry) : Decidable (Catalog.ParentsFirst entries) :=
  inferInstanceAs (Decidable (∀ (i : Nat) (h : i < entries.length), ∀ text ∈ entries[i].parent,
    ∃ p ∈ entries.take i, p.IsNamed text))

/-! ## Names apart -/

/-- Being apart does not depend on the order. -/
lemma Catalog.namesApart_iff_of_perm {entries' : List CatalogEntry} (h : entries.Perm entries') :
    NamesApart entries ↔ NamesApart entries' :=
  h.pairwise_iff fun hapart text hy hx => hapart text hx hy

/-- Two places whose entries have a name in common are the same. -/
lemma Catalog.NamesApart.eq_of_getElem? (h : NamesApart entries) {i j : Nat} {e e' : CatalogEntry}
    (he : entries[i]? = some e) (he' : entries[j]? = some e') (htext : e.IsNamed text)
    (htext' : e'.IsNamed text) : i = j := by
  obtain ⟨hi, rfl⟩ := List.getElem?_eq_some_iff.mp he
  obtain ⟨hj, rfl⟩ := List.getElem?_eq_some_iff.mp he'
  have hapart := List.pairwise_iff_getElem.mp h
  rcases Nat.lt_trichotomy i j with hlt | heq | hlt
  · exact absurd htext' (hapart i j hi hj hlt text htext)
  · exact heq
  · exact absurd htext (hapart j i hj hi hlt text htext')

/-! ## Aliases of one entry -/

/-- Aliases can be added to a type when none of them belongs to another. -/
lemma exists_addAliases {names : List String}
    (hfree : ∀ name ∈ names, ∀ existing, (name, existing) ∈ b.aliases → existing = id) :
    ∃ b', names.foldlM (fun b name => b.addAlias name id) b = .ok b' := by
  suffices hloop : ∃ b', names.foldlM (fun b name => b.addAlias name id) b = .ok b' ∧
      ∀ name ∈ names, ∀ existing, (name, existing) ∈ b'.aliases → existing = id from
    hloop.imp fun _ h => h.1
  refine List.exists_foldlM (b := b)
    (fun _ next => ∀ name ∈ names, ∀ existing, (name, existing) ∈ next.aliases → existing = id)
    hfree ?_
  rintro done name rest b₁ hnames hfree
  have hname : name ∈ names := by
    simp [hnames]
  unfold addAlias
  cases hlookup : b₁.aliases.lookup name with
  | none =>
    refine ⟨_, rfl, ?_⟩
    intro name' hname' existing hmem
    rcases List.mem_append.mp hmem with hmem | hmem
    · exact hfree name' hname' existing hmem
    · exact (Prod.mk.inj (List.mem_singleton.mp hmem)).2
  | some existing =>
    refine ⟨b₁, ?_, hfree⟩
    simp only [if_pos (hfree name hname existing (mem_of_lookup hlookup))]

/-- Adding aliases adds just these. -/
lemma mem_aliases_of_addAliases {names : List String}
    (hfold : names.foldlM (fun b name => b.addAlias name id) b = .ok b') (name : String)
    (i : TypeId) : (name, i) ∈ b'.aliases ↔ (name, i) ∈ b.aliases ∨ i = id ∧ name ∈ names := by
  refine List.foldlM_induction (b := b)
    (fun done next => ∀ name i, (name, i) ∈ next.aliases ↔
      (name, i) ∈ b.aliases ∨ i = id ∧ name ∈ done) (by simp) ?_ hfold name i
  rintro done new rest b₁ b₂ - hdone hadd name i
  rcases addAlias_eq_ok hadd with ⟨hlookup, rfl⟩ | ⟨-, rfl⟩
  · have hnew := (hdone new id).mp (mem_of_lookup hlookup)
    rw [hdone, List.mem_append, List.mem_singleton]
    constructor
    · tauto
    · rintro (hmem | ⟨rfl, hmem | rfl⟩)
      · exact Or.inl hmem
      · exact Or.inr ⟨rfl, hmem⟩
      · exact hnew
  · rw [List.mem_append, List.mem_singleton, hdone, Prod.mk.injEq, List.mem_append,
      List.mem_singleton]
    tauto

/-! ## Declaring an entry -/

/-- A type can be declared under a new name, with a parent that is known. -/
lemma Builder.declare_of_lookup {parent : Option String}
    (hnew : findQualified b.types name = none)
    (hparent : ∀ text ∈ parent, (b.lookup text).isSome) :
    ∃ parentId, b.declare name parent =
      .ok (⟨b.types.length⟩, { b with types := b.types ++ [⟨name, parentId, []⟩] }) := by
  unfold declare
  simp only [hnew, Option.isSome_none, Bool.false_eq_true, if_false]
  cases parent with
  | none => exact ⟨none, rfl⟩
  | some text =>
    obtain ⟨id, hlookup⟩ := Option.isSome_iff_exists.mp (hparent text rfl)
    simp only [hlookup]
    exact ⟨some id, rfl⟩

/-- Declaring an entry adds its aliases for its type. -/
lemma CatalogEntry.mem_aliases_of_declare (hdeclare : entry.declare b = .ok (id, b'))
    (name : String) (i : TypeId) :
    (name, i) ∈ b'.aliases ↔ (name, i) ∈ b.aliases ∨ i = id ∧ name ∈ entry.declaredAliases := by
  unfold CatalogEntry.declare at hdeclare
  obtain ⟨⟨id', b₁⟩, htype, hrest⟩ := Except.bind_eq_ok_iff.mp hdeclare
  obtain ⟨b₂, haliases, hpair⟩ := Except.bind_eq_ok_iff.mp hrest
  cases hpair
  obtain ⟨-, -, parentId, -, rfl⟩ := Builder.declare_eq_ok htype
  exact mem_aliases_of_addAliases haliases name i

/-- An entry can be declared when its name is new, its parent is known and none of its aliases is
taken. -/
lemma CatalogEntry.exists_declare (hnew : findQualified b.types entry.name = none)
    (hparent : ∀ text ∈ entry.parent, (b.lookup text).isSome)
    (hfree : ∀ name ∈ entry.declaredAliases, ∀ existing, (name, existing) ∉ b.aliases) :
    ∃ id b', entry.declare b = .ok (id, b') := by
  obtain ⟨parentId, htype⟩ := Builder.declare_of_lookup hnew hparent
  have hadd : ∃ b' : Builder, entry.declaredAliases.foldlM
      (fun (next : Builder) name => next.addAlias name ⟨b.types.length⟩)
      { b with types := b.types ++ [⟨entry.name, parentId, []⟩] } = Except.ok b' :=
    exists_addAliases fun name hname existing hmem => absurd hmem (hfree name hname existing)
  obtain ⟨b', haliases⟩ := hadd
  refine ⟨⟨b.types.length⟩, b', ?_⟩
  unfold CatalogEntry.declare
  rw [Except.bind_eq_ok_iff]
  refine ⟨_, htype, ?_⟩
  rw [Except.bind_eq_ok_iff]
  exact ⟨b', haliases, rfl⟩

/-! ## The names of several entries -/

/-- The tables of a builder hold the names of some entries, and no others. -/
structure Catalog.Named (entries : List CatalogEntry) (b : Builder) : Prop where
  reachable : b.Reachable
  names : qualifiedNames b.types = entries.map CatalogEntry.name
  aliases : ∀ name id, (name, id) ∈ b.aliases ↔
    ∃ e, entries[id.index]? = some e ∧ name ∈ e.declaredAliases

namespace Catalog.Named

lemma nil : Named [] Builder.empty where
  reachable := reachable_empty
  names := rfl
  aliases := by simp [Builder.empty]

lemma length_eq (h : Named entries b) : b.types.length = entries.length := by
  have hlength := congrArg List.length h.names
  rwa [qualifiedNames, List.length_map, List.length_map] at hlength

/-- Declaring an entry adds its names. -/
lemma append (h : Named entries b) (hdeclare : entry.declare b = .ok (id, b')) :
    Named (entries ++ [entry]) b' := by
  obtain ⟨hreachable, -, rfl, ⟨parent, -, htypes⟩, -⟩ :=
    CatalogEntry.declare_eq_ok h.reachable hdeclare
  refine ⟨hreachable, ?_, ?_⟩
  · rw [htypes, qualifiedNames, List.map_append, List.map_append, ← h.names]
    rfl
  · intro name id
    rw [CatalogEntry.mem_aliases_of_declare hdeclare, h.aliases, h.length_eq]
    rcases Nat.lt_trichotomy id.index entries.length with hlt | heq | hlt
    · rw [List.getElem?_append_left hlt]
      constructor
      · rintro (hold | ⟨rfl, -⟩)
        · exact hold
        · exact absurd hlt (Nat.lt_irrefl _)
      · exact Or.inl
    · rw [heq, List.getElem?_concat_length, List.getElem?_eq_none (Nat.le_refl _)]
      simp [← heq]
    · have hne : id ≠ ⟨entries.length⟩ := by
        rintro rfl
        exact absurd hlt (Nat.lt_irrefl _)
      rw [List.getElem?_eq_none (by omega), List.getElem?_eq_none (by simp; omega)]
      simp [hne]

lemma of_declareTypes {declared : List (TypeId × CatalogEntry)}
    (h : c.declareTypes = .ok (b, declared)) : Named c.entries b := by
  refine List.foldlM_induction
    (fun done (state : Builder × List (TypeId × CatalogEntry)) => Named done state.1) nil ?_ h
  rintro done entry rest ⟨b₁, declared⟩ state' - hdone hstep
  obtain ⟨⟨id, b₂⟩, hdeclare, hstate⟩ := Except.bind_eq_ok_iff.mp hstep
  cases hstate
  exact hdone.append hdeclare

/-- Adding methods changes no name. -/
lemma of_sameNames (h : Named entries b) (hsame : b.SameNames b') : Named entries b' where
  reachable := hsame.reachable
  names := by
    rw [qualifiedNames_eq_map_headers, hsame.headers, ← qualifiedNames_eq_map_headers, h.names]
  aliases := by rw [hsame.aliases]; exact h.aliases

/-! ## Looking names up -/

lemma findQualified_eq_some_iff (h : Named entries b) :
    findQualified b.types name = some id ↔
      ∃ e, entries[id.index]? = some e ∧ e.name = name := by
  have hplace : (b.types[id.index]?).map TypeDeclaration.qualifiedName =
      (entries[id.index]?).map CatalogEntry.name := by
    rw [← List.getElem?_map, ← List.getElem?_map, ← h.names]
    rfl
  constructor
  · intro hfind
    obtain ⟨t, ht, hname⟩ := exists_of_findQualified hfind
    rw [ht, Option.map_some] at hplace
    obtain ⟨e, he, heq⟩ := Option.map_eq_some_iff.mp hplace.symm
    exact ⟨e, he, heq.trans hname⟩
  · rintro ⟨e, he, rfl⟩
    rw [he, Option.map_some] at hplace
    obtain ⟨t, ht, heq⟩ := Option.map_eq_some_iff.mp hplace
    rw [← heq]
    exact findQualified_of_getElem? h.reachable.sound.names_nodup ht

lemma lookup_alias_eq_some_iff (h : Named entries b) :
    b.aliases.lookup name = some id ↔
      ∃ e, entries[id.index]? = some e ∧ name ∈ e.declaredAliases := by
  rw [← h.aliases]
  exact lookup_eq_some_iff_mem h.reachable.sound.aliases_nodup

/-- A text that names an entry is known, whether or not it names another one too. -/
lemma isSome_lookup (h : Named entries b) {e : CatalogEntry} (he : e ∈ entries)
    (htext : e.IsNamed text) : (b.lookup text).isSome := by
  obtain ⟨i, hi⟩ := List.getElem?_of_mem he
  unfold lookup findNamed
  cases halias : b.aliases.lookup text with
  | some id => rfl
  | none =>
    rcases htext with rfl | htext
    · rw [h.findQualified_eq_some_iff.mpr ⟨e, (hi : entries[(⟨i⟩ : TypeId).index]? = some e), rfl⟩]
      rfl
    · rw [h.lookup_alias_eq_some_iff.mpr
        ⟨e, (hi : entries[(⟨i⟩ : TypeId).index]? = some e), htext⟩] at halias
      cases halias

/-- A text means the type of the entry that it names. -/
lemma lookup_eq_some_iff (h : Named entries b) (hunshadowed : Unshadowed b.types b.aliases) :
    b.lookup text = some id ↔ ∃ e, entries[id.index]? = some e ∧ e.IsNamed text := by
  unfold lookup
  rw [findNamed_eq_some_iff hunshadowed, h.lookup_alias_eq_some_iff, h.findQualified_eq_some_iff]
  unfold CatalogEntry.IsNamed
  constructor
  · rintro (⟨e, he, hname⟩ | ⟨e, he, hname⟩)
    · exact ⟨e, he, Or.inr hname⟩
    · exact ⟨e, he, Or.inl hname.symm⟩
  · rintro ⟨e, he, hname | hname⟩
    · exact Or.inr ⟨e, he, hname.symm⟩
    · exact Or.inl ⟨e, he, hname⟩

/-- The aliases agree with the qualified names exactly when no text names two entries. -/
lemma unshadowed_iff (h : Named entries b) :
    Unshadowed b.types b.aliases ↔ NamesApart entries := by
  constructor
  · intro hunshadowed
    refine List.pairwise_iff_getElem.mpr ?_
    intro i j hi hj hlt text htext htext'
    have hi' : b.lookup text = some ⟨i⟩ :=
      (h.lookup_eq_some_iff hunshadowed).mpr ⟨_, List.getElem?_eq_getElem hi, htext⟩
    have hj' : b.lookup text = some ⟨j⟩ :=
      (h.lookup_eq_some_iff hunshadowed).mpr ⟨_, List.getElem?_eq_getElem hj, htext'⟩
    rw [hi'] at hj'
    cases hj'
    exact Nat.lt_irrefl i hlt
  · rintro hapart ⟨name, id⟩ hmem
    obtain ⟨e, he, hname⟩ := (h.aliases name id).mp hmem
    unfold shadows
    cases hfind : findQualified b.types name with
    | none => rfl
    | some named =>
      obtain ⟨e', he', hname'⟩ := h.findQualified_eq_some_iff.mp hfind
      have hsame : named = id := TypeId.eq_of_index_eq
        (hapart.eq_of_getElem? he' he (Or.inl hname'.symm) (Or.inr hname))
      simpa using hsame

end Catalog.Named

/-! ## Declaring all entries -/

/-- The step of the loop over the entries. -/
lemma Catalog.Named.exists_declare {done rest : List CatalogEntry} (h : Named done b)
    (hapart : NamesApart (done ++ entry :: rest))
    (hparents : ParentsFirst (done ++ entry :: rest)) :
    ∃ id b', entry.declare b = .ok (id, b') := by
  have hbefore : ∀ e ∈ done, ∀ text, e.IsNamed text → ¬entry.IsNamed text :=
    fun e he => (List.pairwise_append.mp hapart).2.2 e he entry List.mem_cons_self
  refine CatalogEntry.exists_declare ?_ ?_ ?_
  · rw [findQualified_eq_none_iff, h.names]
    intro hmem
    obtain ⟨e, he, hname⟩ := List.mem_map.mp hmem
    exact hbefore e he entry.name (Or.inl hname.symm) (Or.inl rfl)
  · intro text htext
    have hp := hparents done.length (by simp) text (by simpa using htext)
    rw [List.take_left] at hp
    obtain ⟨p, hp, hname⟩ := hp
    exact h.isSome_lookup hp hname
  · intro name hname existing hmem
    obtain ⟨e, he, hname'⟩ := (h.aliases name existing).mp hmem
    exact hbefore e (List.mem_of_getElem? he) name (Or.inr hname') (Or.inr hname)

/-- All entries can be declared when their names are apart and parents stand first. -/
lemma Catalog.exists_declareTypes (hapart : NamesApart c.entries)
    (hparents : ParentsFirst c.entries) :
    ∃ b declared, c.declareTypes = .ok (b, declared) := by
  suffices hloop : ∃ state, c.declareTypes = .ok state ∧ Named c.entries state.1 by
    obtain ⟨⟨b, declared⟩, hstate, -⟩ := hloop
    exact ⟨b, declared, hstate⟩
  refine List.exists_foldlM
    (fun done (state : Builder × List (TypeId × CatalogEntry)) => Named done state.1)
    Catalog.Named.nil ?_
  rintro done entry rest ⟨b, declared⟩ hentries hdone
  rw [hentries] at hapart hparents
  obtain ⟨id, b', hdeclare⟩ := hdone.exists_declare hapart hparents
  refine ⟨(b', declared ++ [(id, entry)]), ?_, hdone.append hdeclare⟩
  rw [Except.bind_eq_ok_iff]
  exact ⟨(id, b'), hdeclare, rfl⟩

end RuleMetrics
