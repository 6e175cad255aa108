import RuleMetrics.Proofs.Registry.Reordering
import RuleMetrics.Proofs.Registry.ShortNames
import RuleMetrics.Proofs.Sorting

/-!
# Answers by name

The ids of a registry number its types in the order of their declaration, so they say nothing to
someone who knows names only.  `Registry.SameAnswers` compares two registries by what they answer
when types are given and returned by name.

`order_irrelevant` is the result: the order of a catalog has no influence on these answers, as long
as parents come first.
-/

namespace RuleMetrics

namespace Registry

/-- A use of a type by the qualified name of the type. -/
def usageByName (r : Registry) (usage : TypeUsage) : String × Nat :=
  (r.qualifiedName usage.base, usage.dimensions)

/-- The methods that a type declares, in order, with their parameters by name. -/
def methodsByName (r : Registry) (id : TypeId) : List (String × List (String × Nat)) :=
  ((r.declaration? id).elim [] TypeDeclaration.methods).map fun m =>
    (m.name, m.parameters.map r.usageByName)

/-- The usage of a type that is given by name. -/
def namedUsage? (r : Registry) (usage : String × Nat) : Option TypeUsage :=
  (r.resolve usage.1).map fun id => ⟨id, usage.2⟩

/-- The qualified name of the type where a method is found that is looked for from the type
`owner` upwards, all types being given by name. -/
def findMethodByName (r : Registry) (owner name : String) (parameters : List (String × Nat)) :
    Option String := do
  let id ← r.resolve owner
  let usages ← parameters.mapM r.namedUsage?
  let found ← r.findMethod id name usages
  return r.qualifiedName found

/-- Two registries answer the same when types are given by name. -/
structure SameAnswers (r r' : Registry) : Prop where
  resolve : ∀ name, (r.resolve name).map r.qualifiedName = (r'.resolve name).map r'.qualifiedName
  shortName : ∀ name, (r.resolve name).map r.shortName = (r'.resolve name).map r'.shortName
  shortNameFor : ∀ qualified, r.shortNameFor qualified = r'.shortNameFor qualified
  ancestors : ∀ name, (r.resolve name).map (fun id => (r.ancestors id).map r.qualifiedName) =
    (r'.resolve name).map fun id => (r'.ancestors id).map r'.qualifiedName
  aliasNames : r.aliasNames = r'.aliasNames
  methods : ∀ name, (r.resolve name).map r.methodsByName = (r'.resolve name).map r'.methodsByName
  findMethod : ∀ owner name parameters,
    r.findMethodByName owner name parameters = r'.findMethodByName owner name parameters

end Registry

namespace Catalog.Frozen

variable {b b' : Builder} {c c' : Catalog} {r r' : Registry} {id id' : TypeId} {name : String}

/-! ## Names and methods -/

section Same

variable (h : c.Frozen b r) (h' : c'.Frozen b' r') (hperm : c.entries.Perm c'.entries)

include h h' hperm

/-- What is asked of the type that a name means is answered alike, if it is answered alike for the
types of one entry. -/
lemma map_resolve_eq {α : Type} {answer answer' : TypeId → α}
    (hanswer : ∀ id id', SameEntry c.entries c'.entries id id' → answer id = answer' id')
    (name : String) : (r.resolve name).map answer = (r'.resolve name).map answer' := by
  cases hname : r.resolve name with
  | some id =>
    obtain ⟨id', hname', hid⟩ := h.exists_resolve h' hperm hname
    rw [hname', Option.map_some, Option.map_some, hanswer id id' hid]
  | none =>
    cases hname' : r'.resolve name with
    | none => rfl
    | some id' =>
      obtain ⟨id, hname'', -⟩ := h'.exists_resolve h hperm.symm hname'
      rw [hname] at hname''
      cases hname''

omit hperm in
lemma shortName_same (hid : SameEntry c.entries c'.entries id id') :
    r.shortName id = r'.shortName id' := by
  obtain ⟨e, he, he'⟩ := hid
  obtain ⟨t, ht, hrecorded⟩ := h.exists_declaration he
  obtain ⟨t', ht', hrecorded'⟩ := h'.exists_declaration he'
  have haliases : ∀ name, (name, id) ∈ b.aliases ↔ (name, id') ∈ b'.aliases := by
    intro name
    rw [h.named.aliases, h'.named.aliases, he, he']
  rw [Builder.shortName_of_build h.build ht, Builder.shortName_of_build h'.build ht',
    hrecorded.name, hrecorded'.name, shortNameIn_congr h.named.reachable.sound.aliases_nodup
      h'.named.reachable.sound.aliases_nodup haliases]

lemma exists_findQualified (hname : findQualified r.types name = some id) :
    ∃ id', findQualified r'.types name = some id' ∧ SameEntry c.entries c'.entries id id' := by
  rw [Builder.types_of_build h.build, h.named.findQualified_eq_some_iff] at hname
  obtain ⟨e, he, hname⟩ := hname
  obtain ⟨id', he', hid⟩ := exists_sameEntry hperm.subset he
  refine ⟨id', ?_, hid⟩
  rw [Builder.types_of_build h'.build, h'.named.findQualified_eq_some_iff]
  exact ⟨e, he', hname⟩

lemma shortNameFor_eq (qualified : String) :
    r.shortNameFor qualified = r'.shortNameFor qualified := by
  unfold Registry.shortNameFor
  cases hname : findQualified r.types qualified with
  | some id =>
    obtain ⟨id', hname', hid⟩ := h.exists_findQualified h' hperm hname
    rw [hname']
    exact h.shortName_same h' hid
  | none =>
    cases hname' : findQualified r'.types qualified with
    | none => rfl
    | some id' =>
      obtain ⟨id, hname'', -⟩ := h'.exists_findQualified h hperm.symm hname'
      rw [hname] at hname''
      cases hname''

lemma methodsByName_same (hid : SameEntry c.entries c'.entries id id') :
    r.methodsByName id = r'.methodsByName id' := by
  obtain ⟨t, t', ht, ht', hmethods⟩ := h.exists_methods_same h' hperm hid
  have husage : ∀ usage usage', usage.Corresponds (SameEntry c.entries c'.entries) usage' →
      r.usageByName usage = r'.usageByName usage' := by
    intro usage usage' hsame
    unfold Registry.usageByName
    rw [h.qualifiedName_eq_of_same h' hsame.base, hsame.dimensions]
  unfold Registry.methodsByName
  rw [ht, ht']
  refine hmethods.map_eq_map ?_
  intro m m' hm
  rw [hm.name, hm.parameters.map_eq_map husage]

lemma exists_namedUsage {usage : String × Nat} {u : TypeUsage} (hu : r.namedUsage? usage = some u) :
    ∃ u', r'.namedUsage? usage = some u' ∧ u.Corresponds (SameEntry c.entries c'.entries) u' := by
  obtain ⟨id, hname, rfl⟩ := Option.map_eq_some_iff.mp hu
  obtain ⟨id', hname', hid⟩ := h.exists_resolve h' hperm hname
  exact ⟨⟨id', usage.2⟩, Option.map_eq_some_iff.mpr ⟨id', hname', rfl⟩, hid, rfl⟩

lemma findMethodByName_eq_some {owner answer : String} {parameters : List (String × Nat)}
    (hanswer : r.findMethodByName owner name parameters = some answer) :
    r'.findMethodByName owner name parameters = some answer := by
  unfold Registry.findMethodByName at hanswer ⊢
  simp only [Option.bind_eq_bind, Option.bind_eq_some_iff, List.mapM_eq_some_iff] at hanswer ⊢
  obtain ⟨id, howner, usages, husages, found, hfound, ⟨⟩⟩ := hanswer
  obtain ⟨id', howner', hid⟩ := h.exists_resolve h' hperm howner
  obtain ⟨usages', husages', hsame⟩ := husages.exists_forall₂
    fun _ _ _ hu => h.exists_namedUsage h' hperm hu
  obtain ⟨found', hfound', hfoundSame⟩ := h.exists_findMethod h' hperm hid hsame hfound
  refine ⟨id', howner', usages', husages', found', hfound', ?_⟩
  rw [h.qualifiedName_eq_of_same h' hfoundSame]
  rfl

/-! ## Aliases -/

omit h' hperm in
lemma mem_aliasNames {qualified : String} :
    (name, qualified) ∈ r.aliasNames ↔
      ∃ e ∈ c.entries, name ∈ e.declaredAliases ∧ e.name = qualified := by
  have hmem : ∀ id, (name, id) ∈ r.aliases ↔
      ∃ e, c.entries[id.index]? = some e ∧ name ∈ e.declaredAliases := by
    intro id
    rw [← (Builder.aliases_perm_of_build h.build).mem_iff, h.named.aliases]
  unfold Registry.aliasNames
  rw [List.mem_map]
  constructor
  · rintro ⟨⟨name', id⟩, hentry, heq⟩
    obtain ⟨rfl, rfl⟩ := Prod.mk.inj heq
    obtain ⟨e, he, hname⟩ := (hmem id).mp hentry
    exact ⟨e, List.mem_of_getElem? he, hname, (h.qualifiedName_eq he).symm⟩
  · rintro ⟨e, he, hname, rfl⟩
    obtain ⟨i, hi⟩ := List.getElem?_of_mem he
    refine ⟨(name, ⟨i⟩), (hmem ⟨i⟩).mpr ⟨e, hi, hname⟩, ?_⟩
    rw [h.qualifiedName_eq hi]

omit h' hperm in
lemma ascending_aliasNames : r.aliasNames.Pairwise fun x y => x.1 ≤ y.1 := by
  unfold Registry.aliasNames
  rw [List.pairwise_map, (Builder.build_eq_ok_iff.mp h.build).2]
  exact List.ascending_mergeSort_key Prod.fst b.aliases

omit h' hperm in
lemma nodup_aliasNames : (r.aliasNames.map Prod.fst).Nodup := by
  have hnodup := h.named.reachable.sound.aliases_nodup
  unfold Registry.aliasNames
  rw [List.map_map]
  exact ((Builder.aliases_perm_of_build h.build).map Prod.fst).nodup_iff.mp hnodup

lemma aliasNames_eq : r.aliasNames = r'.aliasNames := by
  have hsame : r.aliasNames.Perm r'.aliasNames := by
    rw [List.perm_ext_iff_of_nodup h.nodup_aliasNames.of_map h'.nodup_aliasNames.of_map]
    rintro ⟨name, qualified⟩
    rw [h.mem_aliasNames, h'.mem_aliasNames]
    simp only [hperm.mem_iff]
  exact hsame.eq_of_ascending_keys h.nodup_aliasNames h.ascending_aliasNames
    h'.ascending_aliasNames

/-! ## All answers -/

lemma sameAnswers : r.SameAnswers r' where
  resolve := h.map_resolve_eq h' hperm fun _ _ hid => h.qualifiedName_eq_of_same h' hid
  shortName := h.map_resolve_eq h' hperm fun _ _ hid => h.shortName_same h' hid
  shortNameFor := h.shortNameFor_eq h' hperm
  ancestors := h.map_resolve_eq h' hperm fun _ _ hid =>
    (h.ancestors_same h' hperm hid).map_eq_map fun _ _ hsame => h.qualifiedName_eq_of_same h' hsame
  aliasNames := h.aliasNames_eq h' hperm
  methods := h.map_resolve_eq h' hperm fun _ _ hid => h.methodsByName_same h' hperm hid
  findMethod _ _ _ := Option.ext fun _ =>
    ⟨h.findMethodByName_eq_some h' hperm, h'.findMethodByName_eq_some h hperm.symm⟩

end Same

end Catalog.Frozen

/-- **The order of a catalog does not matter.**  If a catalog is built, then so are its entries in
every order in which the entry that a parent text names comes before the entry with that parent,
and the two registries give the same answers by name. -/
theorem order_irrelevant {c c' : Catalog} {r : Registry} (hbuild : c.build = .ok r)
    (hperm : c'.entries.Perm c.entries) (hparents : Catalog.ParentsFirst c'.entries) :
    ∃ r', c'.build = .ok r' ∧ r.SameAnswers r' := by
  obtain ⟨b, h⟩ := Catalog.exists_frozen hbuild
  obtain ⟨r', hbuild'⟩ := h.exists_build hperm.symm hparents
  obtain ⟨b', h'⟩ := Catalog.exists_frozen hbuild'
  exact ⟨r', hbuild', h.sameAnswers h' hperm.symm⟩

/-- `smallCatalog` with the primitive type first.  The parent of `java.lang.String` is still named
by the well-known short name of the type before it. -/
def reorderedCatalog : Catalog where
  entries := [
    ⟨"char", none, [], []⟩,
    ⟨"java.lang.Object", none, [], ["equals(Object)", " hash ( ) "]⟩,
    ⟨"java.lang.String", some "Object", ["String", "Text"],
      ["join( char [][] ,java.lang.String)"]⟩]

theorem order_irrelevant_of_smallCatalog :
    smallCatalog.build = .ok smallRegistry ∧
      reorderedCatalog.entries.Perm smallCatalog.entries ∧
      Catalog.ParentsFirst reorderedCatalog.entries ∧
      ∃ r', reorderedCatalog.build = .ok r' ∧ smallRegistry.SameAnswers r' := by
  have hperm : reorderedCatalog.entries.Perm smallCatalog.entries := by
    decide
  have hparents : Catalog.ParentsFirst reorderedCatalog.entries := by
    decide
  exact ⟨build_smallCatalog, hperm, hparents, order_irrelevant build_smallCatalog hperm hparents⟩

end RuleMetrics
