import RuleMetrics.Proofs.Registry.Run
import RuleMetrics.Registry.Catalog

/-!
# Registries of catalogs

Building a catalog is a run that stops at the first error, so what holds of all runs holds of
catalogs (`Catalog.exists_builder`).  The run has two halves.  `Catalog.Declared` is kept by the
first, which declares types and aliases, and `Catalog.Filled` by the second, which adds the methods
and leaves all names alone.

`CatalogEntry.Recorded` is what the two halves come to: the type in place `i` is described by entry
`i`.  Its parent and its methods are read in the end as they were read in between.
-/

namespace RuleMetrics

open Builder

variable {b b' : Builder} {c : Catalog} {r : Registry} {entry : CatalogEntry} {id : TypeId}

/-! ## One entry -/

/-- Aliases of one type are added at the end, and nothing else changes. -/
lemma Builder.Reachable.addAliases {names : List String} (h : b.Reachable)
    (hid : id.index < b.types.length)
    (hfold : names.foldlM (fun b name => b.addAlias name id) b = .ok b') :
    b'.Reachable ∧ b.Extends b' ∧ b'.types = b.types ∧
      ∀ name id, (name, id) ∈ b'.aliases → (name, id) ∈ b.aliases ∨ name ∈ names := by
  refine List.foldlM_induction (b := b)
    (fun done next => next.Reachable ∧ b.Extends next ∧ next.types = b.types ∧
      ∀ name id, (name, id) ∈ next.aliases → (name, id) ∈ b.aliases ∨ name ∈ done)
    ⟨h, Extends.refl b, rfl, fun _ _ hmem => Or.inl hmem⟩ ?_ hfold
  rintro done name rest b₁ b₂ - ⟨hreachable, hextends, htypes, haliases⟩ hadd
  have howns : b₁.owns (.addAlias name id) = true := by
    rw [owns, htypes]
    exact decide_eq_true hid
  refine ⟨hreachable.perform (.addAlias name id) howns hadd, ?_⟩
  rcases addAlias_eq_ok hadd with ⟨-, rfl⟩ | ⟨-, rfl⟩
  · refine ⟨hextends, htypes, ?_⟩
    intro name' id' hmem
    have := haliases name' id' hmem
    rw [List.mem_append]
    tauto
  · refine ⟨⟨hextends.types, hextends.aliases.trans (List.prefix_append _ _)⟩, htypes, ?_⟩
    intro name' id' hmem
    rcases List.mem_append.mp hmem with hmem | hmem
    · have := haliases name' id' hmem
      rw [List.mem_append]
      tauto
    · obtain ⟨rfl, -⟩ := Prod.mk.inj (List.mem_singleton.mp hmem)
      exact Or.inr (List.mem_append_right _ List.mem_cons_self)

/-- Declaring an entry adds its type at the end, and its aliases. -/
lemma CatalogEntry.declare_eq_ok (h : b.Reachable) (hdeclare : entry.declare b = .ok (id, b')) :
    b'.Reachable ∧ b.Extends b' ∧ id = ⟨b.types.length⟩ ∧
      (∃ parent, entry.parent.map b.lookup = parent.map some ∧
        b'.types = b.types ++ [⟨entry.name, parent, []⟩]) ∧
      ∀ name id, (name, id) ∈ b'.aliases →
        (name, id) ∈ b.aliases ∨ name ∈ entry.declaredAliases := by
  unfold CatalogEntry.declare at hdeclare
  obtain ⟨⟨id', b₁⟩, htype, hrest⟩ := Except.bind_eq_ok_iff.mp hdeclare
  obtain ⟨b₂, haliases, hpair⟩ := Except.bind_eq_ok_iff.mp hrest
  cases hpair
  have hperform : b.perform (.declare entry.name entry.parent) = .ok b₁ := by
    rw [perform, htype]
    rfl
  have hextends : b.Extends b₁ := by
    have hafter : b.after (.declare entry.name entry.parent) = b₁ := by
      rw [after, hperform]
    rw [← hafter]
    exact extends_after b _
  obtain ⟨-, rfl, parent, hparent, rfl⟩ := Builder.declare_eq_ok htype
  obtain ⟨hreachable, hextends', htypes, hnames⟩ :=
    (h.perform _ rfl hperform).addAliases (by simp) haliases
  exact ⟨hreachable, hextends.trans hextends', rfl, ⟨parent, hparent, htypes⟩, hnames⟩

/-! ## Types and aliases -/

/-- The tables after the types and aliases of some entries were declared. -/
structure Catalog.Declared (entries : List CatalogEntry)
    (state : Builder × List (TypeId × CatalogEntry)) : Prop where
  reachable : state.1.Reachable
  ids : state.2 = entries.mapIdx fun i entry => (⟨i⟩, entry)
  names : qualifiedNames state.1.types = entries.map CatalogEntry.name
  no_methods : ∀ t ∈ state.1.types, t.methods = []
  /-- A parent was looked up in tables that have grown since. -/
  parents : ∀ (i : Nat) (entry : CatalogEntry), entries[i]? = some entry →
    ∃ (t : TypeDeclaration) (before : Builder), state.1.types[i]? = some t ∧
      before.Extends state.1 ∧ entry.parent.map before.lookup = t.parent.map some
  aliases : ∀ name id, (name, id) ∈ state.1.aliases →
    ∃ entry ∈ entries, name ∈ entry.declaredAliases

lemma Catalog.declared_nil : Catalog.Declared [] (Builder.empty, []) where
  reachable := reachable_empty
  ids := rfl
  names := rfl
  no_methods := by simp [Builder.empty]
  parents := by simp
  aliases := by simp [Builder.empty]

lemma Catalog.Declared.length_eq {entries : List CatalogEntry}
    {state : Builder × List (TypeId × CatalogEntry)} (h : Catalog.Declared entries state) :
    state.1.types.length = entries.length := by
  have hlength := congrArg List.length h.names
  rwa [qualifiedNames, List.length_map, List.length_map] at hlength

/-- Each entry is paired with the type that was declared for it. -/
lemma Catalog.Declared.getElem?_eq {entries : List CatalogEntry}
    {declared : List (TypeId × CatalogEntry)} (h : Catalog.Declared entries (b, declared))
    (i : Nat) : declared[i]? = entries[i]?.map fun entry => (⟨i⟩, entry) := by
  have hids : declared = entries.mapIdx fun i entry => (⟨i⟩, entry) := h.ids
  rw [hids, List.getElem?_mapIdx]

/-- Declaring one more entry. -/
lemma Catalog.Declared.append {entries : List CatalogEntry}
    {declared : List (TypeId × CatalogEntry)} (h : Catalog.Declared entries (b, declared))
    (hdeclare : entry.declare b = .ok (id, b')) :
    Catalog.Declared (entries ++ [entry]) (b', declared ++ [(id, entry)]) := by
  obtain ⟨hreachable, hextends, rfl, ⟨parent, hparent, htypes⟩, haliases⟩ :=
    CatalogEntry.declare_eq_ok h.reachable hdeclare
  have hlength : b.types.length = entries.length := h.length_eq
  exact {
    reachable := hreachable
    ids := by
      have hids : declared = entries.mapIdx fun i entry => (⟨i⟩, entry) := h.ids
      rw [hids, List.mapIdx_append, List.mapIdx_singleton, hlength]
      simp
    names := by
      have hnames : qualifiedNames b.types = entries.map CatalogEntry.name := h.names
      change qualifiedNames b'.types = _
      rw [htypes, qualifiedNames, List.map_append, List.map_append, ← hnames]
      rfl
    no_methods := by
      intro t ht
      change t ∈ b'.types at ht
      rw [htypes, List.mem_append, List.mem_singleton] at ht
      rcases ht with ht | rfl
      · exact h.no_methods t ht
      · rfl
    parents := by
      intro i entry' hentry
      change ∃ (t : TypeDeclaration) (before : Builder), b'.types[i]? = some t ∧
        before.Extends b' ∧ _
      rw [htypes]
      by_cases hi : i < entries.length
      · rw [List.getElem?_append_left hi] at hentry
        obtain ⟨t, before, ht, hbefore, hlookup⟩ := h.parents i entry' hentry
        exact ⟨t, before, by rwa [List.getElem?_append_left (hlength ▸ hi)],
          hbefore.trans hextends, hlookup⟩
      · have hi' : i = entries.length := by
          have := (List.getElem?_eq_some_iff.mp hentry).1
          rw [List.length_append, List.length_singleton] at this
          omega
        subst hi'
        rw [List.getElem?_concat_length] at hentry
        cases hentry
        exact ⟨⟨entry.name, parent, []⟩, b, by simp [← hlength], hextends, hparent⟩
    aliases := by
      intro name id hmem
      rcases haliases name id hmem with hmem | hmem
      · obtain ⟨entry', hentry, hname⟩ := h.aliases name id hmem
        exact ⟨entry', List.mem_append_left _ hentry, hname⟩
      · exact ⟨entry, List.mem_append_right _ List.mem_cons_self, hmem⟩ }

lemma Catalog.declared_of_declareTypes {state : Builder × List (TypeId × CatalogEntry)}
    (h : c.declareTypes = .ok state) : Catalog.Declared c.entries state := by
  refine List.foldlM_induction Catalog.Declared Catalog.declared_nil ?_ h
  rintro done entry rest ⟨b₁, declared⟩ state' - hdone hstep
  obtain ⟨⟨id, b₂⟩, hdeclare, hstate⟩ := Except.bind_eq_ok_iff.mp hstep
  cases hstate
  exact hdone.append hdeclare

/-! ## Methods -/

/-- These methods are what the texts of an entry mean. -/
def CatalogEntry.Reads (b : Builder) (entry : CatalogEntry)
    (methods : List MethodDeclaration) : Prop :=
  List.Forall₂ (fun text m => CatalogEntry.readMethod b entry.name text = .ok m)
    entry.methods methods

/-- Reading a method asks its builder for names only. -/
lemma CatalogEntry.readMethod_eq_of_lookup (h : b'.lookup = b.lookup) (owner text : String) :
    CatalogEntry.readMethod b' owner text = CatalogEntry.readMethod b owner text := by
  unfold CatalogEntry.readMethod resolveUsage
  rw [h]

/-- Names and parents are the same in two builders that some run leaves. -/
structure Builder.SameNames (b b' : Builder) : Prop where
  reachable : b'.Reachable
  headers : headers b'.types = headers b.types
  aliases : b'.aliases = b.aliases

lemma Builder.SameNames.lookup_eq (h : b.SameNames b') : b'.lookup = b.lookup :=
  lookup_eq_of_headers h.headers h.aliases

lemma Builder.SameNames.addMethod (h : b.SameNames b') (owner : TypeId)
    (method : MethodDeclaration) : b.SameNames (b'.addMethod owner method) where
  reachable := h.reachable.perform (.addMethod owner method) rfl rfl
  headers := by rw [headers_addMethod, h.headers]
  aliases := h.aliases

/-- The methods of an entry are added to its type, each read with the names as they were before the
first. -/
lemma CatalogEntry.declareMethods_eq_ok {b₀ : Builder} (h : b₀.SameNames b)
    (hdeclare : CatalogEntry.declareMethods b (id, entry) = .ok b') :
    b₀.SameNames b' ∧ ∃ methods, entry.Reads b₀ methods ∧
      b'.types = b.types.modify id.index fun t => { t with methods := t.methods ++ methods } := by
  refine List.foldlM_induction (b := b)
    (fun done next => b₀.SameNames next ∧ ∃ methods,
      List.Forall₂ (fun text m => CatalogEntry.readMethod b₀ entry.name text = .ok m) done methods ∧
      next.types = b.types.modify id.index fun t => { t with methods := t.methods ++ methods })
    ⟨h, [], List.Forall₂.nil, ?_⟩ ?_ hdeclare
  · simp only [List.append_nil]
    exact (List.modify_id id.index b.types).symm
  · rintro done text rest b₁ b₂ - ⟨hnames, methods, hmethods, htypes⟩ hstep
    obtain ⟨m, hm, hadd⟩ := Except.bind_eq_ok_iff.mp hstep
    cases hadd
    rw [CatalogEntry.readMethod_eq_of_lookup hnames.lookup_eq] at hm
    refine ⟨hnames.addMethod id m, methods ++ [m], ?_, ?_⟩
    · exact List.rel_append hmethods (List.Forall₂.cons hm List.Forall₂.nil)
    · change b₁.types.modify id.index _ = _
      rw [htypes, List.modify_modify_eq]
      simp only [Function.comp_def, List.append_assoc]

/-- The tables after the methods of some entries were added to the first types of `b`. -/
structure Catalog.Filled (b : Builder) (done : List (TypeId × CatalogEntry)) (b' : Builder) :
    Prop where
  names : b.SameNames b'
  methods : ∀ (i : Nat) (t : TypeDeclaration), b'.types[i]? = some t →
    match done[i]? with
    | some (_, entry) => entry.Reads b t.methods
    | none => t.methods = []

lemma Catalog.filled_of_declareMethods {entries : List CatalogEntry}
    {declared : List (TypeId × CatalogEntry)} (h : Catalog.Declared entries (b, declared))
    (hfold : declared.foldlM CatalogEntry.declareMethods b = .ok b') :
    Catalog.Filled b declared b' := by
  refine List.foldlM_induction (Catalog.Filled b) ⟨⟨h.reachable, rfl, rfl⟩, ?_⟩ ?_ hfold
  · intro i t ht
    exact h.no_methods t (List.mem_of_getElem? ht)
  rintro done ⟨id, entry⟩ rest b₁ b₂ hdeclared hdone hstep
  obtain ⟨hnames, methods, hmethods, htypes⟩ :=
    CatalogEntry.declareMethods_eq_ok hdone.names hstep
  have hid : id.index = done.length := by
    have hplace : declared[done.length]? = some (id, entry) := by
      simp [hdeclared]
    rw [h.getElem?_eq, Option.map_eq_some_iff] at hplace
    obtain ⟨_, -, hpair⟩ := hplace
    rw [← (Prod.mk.inj hpair).1]
  refine ⟨hnames, ?_⟩
  intro i t ht
  rw [htypes, List.getElem?_modify, hid, Option.map_eq_map, Option.map_eq_some_iff] at ht
  obtain ⟨t₁, ht₁, rfl⟩ := ht
  have hbefore := hdone.methods i t₁ ht₁
  rcases Nat.lt_trichotomy i done.length with hi | rfl | hi
  · rw [if_neg (by omega), List.getElem?_append_left hi]
    exact hbefore
  · rw [List.getElem?_eq_none (Nat.le_refl _)] at hbefore
    change t₁.methods = [] at hbefore
    rw [if_pos rfl, List.getElem?_concat_length]
    simpa [hbefore] using hmethods
  · rw [List.getElem?_eq_none (by omega)] at hbefore
    rw [if_neg (by omega), List.getElem?_eq_none (by simp; omega)]
    exact hbefore

/-! ## The whole catalog -/

/-- A type is declared as an entry says, in tables where the names mean what they mean in `b`. -/
structure CatalogEntry.Recorded (b : Builder) (entry : CatalogEntry) (t : TypeDeclaration) :
    Prop where
  name : t.qualifiedName = entry.name
  parent : entry.parent.map b.lookup = t.parent.map some
  methods : entry.Reads b t.methods

/-- The tables of a catalog that was read to its end. -/
structure Catalog.Recorded (c : Catalog) (b : Builder) : Prop where
  reachable : b.Reachable
  length : b.types.length = c.entries.length
  types : ∀ (i : Nat) (entry : CatalogEntry), c.entries[i]? = some entry →
    ∃ t, b.types[i]? = some t ∧ entry.Recorded b t
  aliases : ∀ name id, (name, id) ∈ b.aliases → ∃ entry ∈ c.entries, name ∈ entry.declaredAliases

/-- A parent that was looked up on the way is looked up with the same result in the end. -/
lemma Builder.Extends.map_lookup (h : b.Extends b') (hunshadowed : Unshadowed b'.types b'.aliases)
    {parent : Option String} {parentId : Option TypeId}
    (hparent : parent.map b.lookup = parentId.map some) :
    parent.map b'.lookup = parentId.map some := by
  cases parentId with
  | none =>
    rw [Option.map_none, Option.map_eq_none_iff] at hparent ⊢
    exact hparent
  | some p =>
    obtain ⟨text, rfl, hlookup⟩ := Option.map_eq_some_iff.mp hparent
    rw [Option.map_some, Option.map_some, h.lookup hunshadowed hlookup]

/-- Entry by entry, the two halves of the building agree on the types. -/
lemma Catalog.Declared.recorded {entries : List CatalogEntry}
    {declared : List (TypeId × CatalogEntry)} (h : Catalog.Declared entries (b, declared))
    (hfilled : Catalog.Filled b declared b') (hunshadowed : Unshadowed b'.types b'.aliases)
    {i : Nat} (hentry : entries[i]? = some entry) :
    ∃ t, b'.types[i]? = some t ∧ entry.Recorded b' t := by
  obtain ⟨t, before, ht, hbefore, hparent⟩ := h.parents i entry hentry
  have hname : t.qualifiedName = entry.name := by
    have hnames := congrArg (·[i]?) h.names
    have ht' : b.types[i]? = some t := ht
    simpa [qualifiedNames, ht', hentry] using hnames
  have hheader : (headers b'.types)[i]? = some (t.qualifiedName, t.parent) := by
    rw [hfilled.names.headers, headers, List.getElem?_map]
    exact congrArg _ ht
  rw [headers, List.getElem?_map, Option.map_eq_some_iff] at hheader
  obtain ⟨t', ht', hsame⟩ := hheader
  obtain ⟨hsameName, hsameParent⟩ := Prod.mk.inj hsame
  have hextends : before.Extends b' :=
    ⟨hfilled.names.headers ▸ hbefore.types, hfilled.names.aliases ▸ hbefore.aliases⟩
  have hreads : entry.Reads b t'.methods := by
    have hplace : declared[i]? = some (⟨i⟩, entry) := by
      rw [h.getElem?_eq, hentry]
      rfl
    have hmethods := hfilled.methods i t' ht'
    rwa [hplace] at hmethods
  refine ⟨t', ht', ?_, ?_, ?_⟩
  · rw [hsameName, hname]
  · rw [hsameParent]
    exact hextends.map_lookup hunshadowed hparent
  · refine hreads.imp ?_
    intro text m hm
    rwa [CatalogEntry.readMethod_eq_of_lookup hfilled.names.lookup_eq]

/-- What a catalog is built from: the tables after the types and aliases, and those after the
methods. -/
lemma Catalog.halves_of_build (h : c.build = .ok r) :
    ∃ b b' declared, c.declareTypes = .ok (b, declared) ∧
      declared.foldlM CatalogEntry.declareMethods b = .ok b' ∧ b'.build = .ok r := by
  unfold Catalog.build at h
  obtain ⟨⟨b, declared⟩, htypes, h⟩ := Except.bind_eq_ok_iff.mp h
  obtain ⟨b', hmethods, hbuild⟩ := Except.bind_eq_ok_iff.mp h
  exact ⟨b, b', declared, htypes, hmethods, hbuild⟩

lemma Catalog.recorded_of_halves {declared : List (TypeId × CatalogEntry)}
    (htypes : c.declareTypes = .ok (b, declared))
    (hmethods : declared.foldlM CatalogEntry.declareMethods b = .ok b')
    (hunshadowed : Unshadowed b'.types b'.aliases) : c.Recorded b' := by
  have hdeclared := Catalog.declared_of_declareTypes htypes
  have hfilled := Catalog.filled_of_declareMethods hdeclared hmethods
  refine ⟨hfilled.names.reachable, ?_, ?_, ?_⟩
  · rw [← length_headers, hfilled.names.headers, length_headers]
    exact hdeclared.length_eq
  · intro i entry hentry
    exact hdeclared.recorded hfilled hunshadowed hentry
  · intro name id hmem
    rw [hfilled.names.aliases] at hmem
    exact hdeclared.aliases name id hmem

/-- The registry of a catalog is frozen from tables that record each of its entries. -/
lemma Catalog.exists_builder (h : c.build = .ok r) :
    ∃ b, c.Recorded b ∧ b.build = .ok r := by
  obtain ⟨_, b, _, htypes, hmethods, hbuild⟩ := Catalog.halves_of_build h
  exact ⟨b, Catalog.recorded_of_halves htypes hmethods (unshadowed_of_build hbuild), hbuild⟩

lemma Catalog.built_of_build (h : c.build = .ok r) : r.Built := by
  obtain ⟨b, hrecorded, hbuild⟩ := Catalog.exists_builder h
  exact hrecorded.reachable.built hbuild

/-- The way back: a catalog is built when its two halves and the freezing succeed. -/
lemma Catalog.build_of_halves {declared : List (TypeId × CatalogEntry)}
    (htypes : c.declareTypes = .ok (b, declared))
    (hmethods : declared.foldlM CatalogEntry.declareMethods b = .ok b')
    (hbuild : b'.build = .ok r) : c.build = .ok r := by
  unfold Catalog.build
  rw [Except.bind_eq_ok_iff]
  refine ⟨(b, declared), htypes, ?_⟩
  rw [Except.bind_eq_ok_iff]
  exact ⟨b', hmethods, hbuild⟩

/-- A catalog with odd blanks, with a parent that is named by its well-known short name, and with a
method that uses a type declared later. -/
def smallCatalog : Catalog where
  entries := [
    ⟨"java.lang.Object", none, [], ["equals(Object)", " hash ( ) "]⟩,
    ⟨"java.lang.String", some "Object", ["String", "Text"], ["join( char [][] ,java.lang.String)"]⟩,
    ⟨"char", none, [], []⟩]

/-- The registry of `smallCatalog`. -/
def smallRegistry : Registry where
  types := [
    ⟨"java.lang.Object", none, [⟨"equals", [⟨⟨0⟩, 0⟩]⟩, ⟨"hash", []⟩]⟩,
    ⟨"java.lang.String", some ⟨0⟩, [⟨"join", [⟨⟨2⟩, 2⟩, ⟨⟨1⟩, 0⟩]⟩]⟩,
    ⟨"char", none, []⟩]
  aliases := [("Object", ⟨0⟩), ("String", ⟨1⟩), ("Text", ⟨1⟩)]
  shortNames := [some "Object", some "Text", none]

lemma build_smallCatalog : smallCatalog.build = .ok smallRegistry := by
  have htypes : smallCatalog.declareTypes = .ok
      (⟨[⟨"java.lang.Object", none, []⟩, ⟨"java.lang.String", some ⟨0⟩, []⟩, ⟨"char", none, []⟩],
        smallRegistry.aliases⟩, smallCatalog.entries.mapIdx fun i entry => (⟨i⟩, entry)) := rfl
  have hmethods : (smallCatalog.entries.mapIdx fun i entry => (⟨i⟩, entry)).foldlM
      CatalogEntry.declareMethods
      ⟨[⟨"java.lang.Object", none, []⟩, ⟨"java.lang.String", some ⟨0⟩, []⟩, ⟨"char", none, []⟩],
        smallRegistry.aliases⟩ = .ok ⟨smallRegistry.types, smallRegistry.aliases⟩ := by
    decide +kernel
  exact Catalog.build_of_halves htypes hmethods (build_of_ascending (by decide) (by decide))

end RuleMetrics
