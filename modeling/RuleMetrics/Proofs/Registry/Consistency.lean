import RuleMetrics.Proofs.Registry.ShortNames

/-!
# Registries are consistent

A builder never compares a new type with the aliases, nor a new alias with the qualified names, so
in the middle of a run a name may be an alias of one type and the qualified name of another.  Only
the end of the run settles the matter.  `Registry.Consistent` lists what a user of the finished
registry can rely on, and `consistent_of_build` derives it from the soundness that every call keeps
and from the check that the builder makes at the end.

`registry_consistent` states this of all runs.  It also says which aliases the registry has: those
that a call of the run registered without an error, for the types that they were registered for.
-/

namespace RuleMetrics

/-- Names and parents of a registry agree with each other. -/
structure Registry.Consistent (r : Registry) : Prop where
  resolve_qualifiedName : ∀ id : TypeId, id.index < r.size →
    r.resolve (r.qualifiedName id) = some id
  resolve_shortName : ∀ id : TypeId, id.index < r.size → r.resolve (r.shortName id) = some id
  shortNameFor_qualifiedName : ∀ id : TypeId, id.index < r.size →
    r.shortNameFor (r.qualifiedName id) = r.shortName id
  qualifiedName_injective : ∀ id id' : TypeId, id.index < r.size → id'.index < r.size →
    r.qualifiedName id = r.qualifiedName id' → id = id'
  shortName_injective : ∀ id id' : TypeId, id.index < r.size → id'.index < r.size →
    r.shortName id = r.shortName id' → id = id'
  resolve_alias : ∀ name id, (name, id) ∈ r.aliases → r.resolve name = some id
  /-- Asking the qualified names before the aliases makes no difference. -/
  qualified_first : ∀ name,
    (findQualified r.types name).or (r.aliases.lookup name) = r.resolve name
  parent_lt : ∀ (id p : TypeId) (t : TypeDeclaration),
    r.declaration? id = some t → t.parent = some p → p.index < id.index

namespace Builder

variable {b : Builder} {r : Registry}

/-! ## Frozen tables -/

lemma declaration_of_lt {id : TypeId} (hid : id.index < r.size) :
    ∃ t, r.types[id.index]? = some t ∧ r.qualifiedName id = t.qualifiedName := by
  have ht : r.types[id.index]? = some r.types[id.index] := List.getElem?_eq_getElem hid
  refine ⟨r.types[id.index], ht, ?_⟩
  unfold Registry.qualifiedName Registry.declaration?
  rw [ht]

/-- The name that a type is shown by is one of its aliases or its qualified name. -/
lemma shortName_cases (hbuild : b.build = .ok r) (id : TypeId) :
    (r.shortName id, id) ∈ r.aliases ∨ r.shortName id = r.qualifiedName id := by
  unfold Registry.shortName
  split
  · next name hname =>
    left
    rw [(build_eq_ok_iff.mp hbuild).2] at hname
    simp only [List.getElem?_mapIdx, Option.map_eq_some_iff] at hname
    obtain ⟨t, -, hname⟩ := hname
    exact (aliases_perm_of_build hbuild).mem_iff.mp (mem_of_shortNameIn hname)
  · exact Or.inr rfl

/-- A name means a type in a registry when either of the frozen tables says so. -/
lemma resolve_eq_some_iff_of_build (h : b.Distinct) (hbuild : b.build = .ok r) {name : String}
    {id : TypeId} :
    r.resolve name = some id ↔
      b.aliases.lookup name = some id ∨ findQualified b.types name = some id := by
  rw [resolve_of_build h hbuild]
  exact findNamed_eq_some_iff (unshadowed_of_build hbuild)

lemma resolve_alias_of_build (h : b.Distinct) (hbuild : b.build = .ok r) {name : String}
    {id : TypeId} (hmem : (name, id) ∈ r.aliases) : r.resolve name = some id := by
  rw [resolve_eq_some_iff_of_build h hbuild]
  exact Or.inl (lookup_of_mem h.aliases_nodup ((aliases_perm_of_build hbuild).mem_iff.mpr hmem))

lemma findQualified_of_build (h : b.Distinct) (hbuild : b.build = .ok r) {id : TypeId}
    (hid : id.index < r.size) : findQualified r.types (r.qualifiedName id) = some id := by
  obtain ⟨t, ht, hname⟩ := declaration_of_lt hid
  rw [types_of_build hbuild] at ht ⊢
  rw [hname]
  exact findQualified_of_getElem? h.names_nodup ht

lemma resolve_qualifiedName_of_build (h : b.Distinct) (hbuild : b.build = .ok r) {id : TypeId}
    (hid : id.index < r.size) : r.resolve (r.qualifiedName id) = some id := by
  rw [resolve_eq_some_iff_of_build h hbuild, ← types_of_build hbuild]
  exact Or.inr (findQualified_of_build h hbuild hid)

/-- A type is found by the name that it is shown by. -/
lemma resolve_shortName_of_build (h : b.Distinct) (hbuild : b.build = .ok r) {id : TypeId}
    (hid : id.index < r.size) : r.resolve (r.shortName id) = some id := by
  rcases shortName_cases hbuild id with hmem | heq
  · exact resolve_alias_of_build h hbuild hmem
  · rw [heq]
    exact resolve_qualifiedName_of_build h hbuild hid

/-- Names that are resolved to their own types tell the types apart. -/
lemma injective_of_resolve {names : TypeId → String}
    (hnames : ∀ id : TypeId, id.index < r.size → r.resolve (names id) = some id) {id id' : TypeId}
    (hid : id.index < r.size) (hid' : id'.index < r.size) (heq : names id = names id') :
    id = id' := by
  have hboth : some id = some id' := by
    rw [← hnames id hid, heq, hnames id' hid']
  exact Option.some.inj hboth

/-- When the tables agree, either may be asked first. -/
lemma qualified_first_of_build (h : b.Distinct) (hbuild : b.build = .ok r) (name : String) :
    (findQualified r.types name).or (r.aliases.lookup name) = r.resolve name := by
  have hunshadowed := unshadowed_of_build hbuild
  apply Option.ext
  intro id
  rw [resolve_eq_some_iff_of_build h hbuild, types_of_build hbuild,
    lookup_eq_of_perm h.aliases_nodup (aliases_perm_of_build hbuild), Option.or_eq_some_iff]
  cases hnamed : findQualified b.types name with
  | none => simp
  | some named =>
    constructor
    · rintro (hsame | ⟨⟨⟩, -⟩)
      exact Or.inr hsame
    · rintro (hmem | hsame)
      · rw [hunshadowed.eq_of_mem (mem_of_lookup hmem) hnamed]
        exact Or.inl rfl
      · exact Or.inl hsame

/-- Freezing sound tables gives a consistent registry. -/
lemma consistent_of_build (h : b.Sound) (hbuild : b.build = .ok r) : r.Consistent := by
  have hqualified : ∀ id : TypeId, id.index < r.size → r.resolve (r.qualifiedName id) = some id :=
    fun _ hid => resolve_qualifiedName_of_build h.toDistinct hbuild hid
  have hshort : ∀ id : TypeId, id.index < r.size → r.resolve (r.shortName id) = some id :=
    fun _ hid => resolve_shortName_of_build h.toDistinct hbuild hid
  exact {
    resolve_qualifiedName := hqualified
    resolve_shortName := hshort
    shortNameFor_qualifiedName := by
      intro id hid
      unfold Registry.shortNameFor
      rw [findQualified_of_build h.toDistinct hbuild hid]
    qualifiedName_injective := fun _ _ hid hid' heq =>
      injective_of_resolve hqualified hid hid' heq
    shortName_injective := fun _ _ hid hid' heq => injective_of_resolve hshort hid hid' heq
    resolve_alias := fun _ _ hmem => resolve_alias_of_build h.toDistinct hbuild hmem
    qualified_first := qualified_first_of_build h.toDistinct hbuild
    parent_lt := by
      intro id p t ht hp
      unfold Registry.declaration? at ht
      rw [types_of_build hbuild] at ht
      exact h.parent_lt id.index t p ht hp }

/-! ## Aliases of a run -/

/-- A call of a run registers the name for the type, without an error. -/
def Registers (b : Builder) (name : String) (id : TypeId) : List Call → Prop
  | [] => False
  | call :: rest =>
    (call = .addAlias name id ∧ ∃ next, b.perform call = .ok next) ∨
      (b.after call).Registers name id rest

lemma mem_aliases_after {name : String} {id : TypeId} (call : Call) :
    (name, id) ∈ (b.after call).aliases ↔
      (name, id) ∈ b.aliases ∨ (call = .addAlias name id ∧ ∃ next, b.perform call = .ok next) := by
  constructor
  · intro hmem
    rcases after_cases b call with hafter | ⟨_, _, _, -, -, -, hafter⟩ |
      ⟨name', id', rfl, hnew, hafter⟩ | ⟨_, _, -, hafter⟩
    · exact Or.inl (hafter ▸ hmem)
    · exact Or.inl (by rwa [hafter] at hmem)
    · rw [hafter, List.mem_append, List.mem_singleton] at hmem
      rcases hmem with hmem | hmem
      · exact Or.inl hmem
      · obtain ⟨rfl, rfl⟩ := Prod.mk.inj hmem
        refine Or.inr ⟨rfl, { b with aliases := b.aliases ++ [(name, id)] }, ?_⟩
        simp [perform, addAlias, hnew]
    · exact Or.inl (by rwa [hafter] at hmem)
  · rintro (hmem | ⟨rfl, next, hnext⟩)
    · exact (extends_after b call).aliases.subset hmem
    · have hafter : b.after (.addAlias name id) = next := by
        unfold after
        rw [hnext]
      rw [hafter]
      rcases addAlias_eq_ok hnext with ⟨hlookup, rfl⟩ | ⟨-, rfl⟩
      · exact mem_of_lookup hlookup
      · simp

lemma mem_aliases_run {name : String} {id : TypeId} (calls : List Call) :
    (name, id) ∈ (b.run calls).aliases ↔ (name, id) ∈ b.aliases ∨ b.Registers name id calls := by
  induction calls generalizing b with
  | nil => simp [Registers]
  | cons call calls ih =>
    rw [run_cons, ih, mem_aliases_after, Registers, or_assoc]

end Builder

/-- **Registries are consistent.**  Whatever calls are made on a fresh builder, in any order and
with any of them failing, a registry that it is frozen to has names and parents that agree, and its
aliases are those that were registered. -/
theorem registry_consistent {calls : List Call} {r : Registry}
    (howns : Builder.empty.Owns calls) (hbuild : (Builder.empty.run calls).build = .ok r) :
    r.Consistent ∧
      ∀ name id, (name, id) ∈ r.aliases ↔ Builder.empty.Registers name id calls := by
  refine ⟨Builder.consistent_of_build (Builder.sound_empty.run howns) hbuild, ?_⟩
  intro name id
  rw [← (Builder.aliases_perm_of_build hbuild).mem_iff, Builder.mem_aliases_run]
  simp [Builder.empty]

/-- Calls of which three fail: `String` is taken, `java.lang.String` is declared, and `Integer` is
not declared.  The parent of `java.lang.String` is named by an alias. -/
def mixedCalls : List Call :=
  [ .declare "java.lang.Object" none,
    .addAlias "Object" ⟨0⟩,
    .declare "java.lang.String" (some "Object"),
    .addAlias "String" ⟨1⟩,
    .addAlias "String" ⟨0⟩,
    .addAlias "Text" ⟨1⟩,
    .declare "java.lang.String" none,
    .addMethod ⟨1⟩ ⟨"charAt", [⟨⟨2⟩, 0⟩]⟩,
    .declare "int" (some "Integer"),
    .declare "int" none,
    .addAlias "int" ⟨2⟩ ]

/-- What `mixedCalls` leave: `Text` is the shorter alias, and `int` is not shorter than itself. -/
def mixedRegistry : Registry where
  types := [
    ⟨"java.lang.Object", none, []⟩,
    ⟨"java.lang.String", some ⟨0⟩, [⟨"charAt", [⟨⟨2⟩, 0⟩]⟩]⟩,
    ⟨"int", none, []⟩]
  aliases := [("Object", ⟨0⟩), ("String", ⟨1⟩), ("Text", ⟨1⟩), ("int", ⟨2⟩)]
  shortNames := [some "Object", some "Text", none]

lemma owns_mixedCalls : Builder.empty.Owns mixedCalls := by
  decide

lemma build_mixedCalls : (Builder.empty.run mixedCalls).build = .ok mixedRegistry :=
  Builder.build_of_ascending (by decide) (by decide)

theorem registry_consistent_of_mixedCalls :
    Builder.empty.Owns mixedCalls ∧
      (Builder.empty.run mixedCalls).build = .ok mixedRegistry ∧ mixedRegistry.Consistent ∧
      ∀ name id, (name, id) ∈ mixedRegistry.aliases ↔
        Builder.empty.Registers name id mixedCalls :=
  ⟨owns_mixedCalls, build_mixedCalls, registry_consistent owns_mixedCalls build_mixedCalls⟩

end RuleMetrics
