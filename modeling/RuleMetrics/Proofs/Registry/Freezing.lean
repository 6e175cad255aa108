import RuleMetrics.Proofs.Registry.Consistency
import RuleMetrics.Proofs.Sorting

/-!
# Freezing a builder

A builder keeps its aliases in a table without an order of its own, so `Registry.ofTables` may see
them in any.  `freezing_settled` says that nothing depends on it but which of several bad aliases is
reported.  It also says what the outcome is, in terms of the builder alone: when there is an error
(`Builder.Shadows`), and by which name each type of the registry is shown (`Builder.ShownAs`).

That the aliases are taken one after the other does not show, even though the first short name of a
type has to pass another test than later ones (`bestName_shortNameIn`).
-/

namespace RuleMetrics

variable {types : List TypeDeclaration} {order order' : AliasTable} {r : Registry} {name : String}
  {id : TypeId}

/-! ## Orders of the same aliases -/

/-- Tables that differ in the order of the aliases are frozen to the same registry. -/
lemma Registry.ofTables_eq_ok_of_perm (hnodup : (order.map Prod.fst).Nodup)
    (hperm : order.Perm order') (h : Registry.ofTables types order = .ok r) :
    Registry.ofTables types order' = .ok r := by
  rw [Registry.ofTables_eq_ok_iff] at h ⊢
  obtain ⟨hunshadowed, rfl⟩ := h
  have hnodup' : (order'.map Prod.fst).Nodup := (hperm.map Prod.fst).nodup_iff.mp hnodup
  have hsorted : (order.mergeSort fun x y => decide (x.1 ≤ y.1)) =
      order'.mergeSort fun x y => decide (x.1 ≤ y.1) := hperm.mergeSort_key_eq hnodup
  have hshort : ∀ (id : TypeId) (qualified : String),
      shortNameIn order id qualified = shortNameIn order' id qualified := by
    intro id qualified
    exact shortNameIn_congr hnodup hnodup' (fun _ => hperm.mem_iff) qualified
  refine ⟨fun entry hentry => hunshadowed entry (hperm.mem_iff.mpr hentry), ?_⟩
  simp only [hsorted, hshort]

/-- Tables are either frozen or rejected. -/
lemma Registry.exists_ofTables_eq_error_iff :
    (∃ e, Registry.ofTables types order = .error e) ↔ ¬ Unshadowed types order := by
  constructor
  · rintro ⟨e, he⟩ hunshadowed
    rw [Registry.ofTables_eq_ok_iff.mpr ⟨hunshadowed, rfl⟩] at he
    cases he
  · intro hshadowed
    cases h : Registry.ofTables types order with
    | ok r => exact absurd (Registry.ofTables_eq_ok_iff.mp h).1 hshadowed
    | error e => exact ⟨e, rfl⟩

/-! ## Aliases that are rejected -/

/-- An alias shadows the type that has it as qualified name, if that is not its own. -/
lemma shadows_iff (hnodup : (qualifiedNames types).Nodup) :
    shadows types (name, id) = true ↔
      ∃ (named : TypeId) (t : TypeDeclaration), types[named.index]? = some t ∧
        t.qualifiedName = name ∧ named ≠ id := by
  unfold shadows
  constructor
  · intro h
    cases hnamed : findQualified types name with
    | none => simp [hnamed] at h
    | some named =>
      obtain ⟨t, ht, hname⟩ := exists_of_findQualified hnamed
      exact ⟨named, t, ht, hname, by simpa [hnamed] using h⟩
  · rintro ⟨named, t, ht, rfl, hne⟩
    simpa [findQualified_of_getElem? hnodup ht] using hne

namespace Builder

variable {b : Builder} {t : TypeDeclaration}

/-- An alias that is the qualified name of a type other than its own. -/
def Shadows (b : Builder) (name : String) : Prop :=
  ∃ (id named : TypeId) (t : TypeDeclaration), (name, id) ∈ b.aliases ∧
    b.types[named.index]? = some t ∧ t.qualifiedName = name ∧ named ≠ id

lemma shadows_of_mem (h : b.Distinct) {entry : String × TypeId} (hmem : entry ∈ b.aliases)
    (hshadows : shadows b.types entry = true) : b.Shadows entry.1 := by
  obtain ⟨named, t, ht, hname, hne⟩ := (shadows_iff h.names_nodup).mp hshadows
  exact ⟨entry.2, named, t, hmem, ht, hname, hne⟩

lemma exists_shadows_iff (h : b.Distinct) (horder : order.Perm b.aliases) :
    (∃ name, b.Shadows name) ↔ ¬ Unshadowed b.types order := by
  constructor
  · rintro ⟨name, id, named, t, hmem, ht, hname, hne⟩ hunshadowed
    have hshadows := (shadows_iff h.names_nodup).mpr ⟨named, t, ht, hname, hne⟩
    rw [hunshadowed (name, id) (horder.mem_iff.mpr hmem)] at hshadows
    cases hshadows
  · intro hshadowed
    unfold Unshadowed at hshadowed
    push Not at hshadowed
    obtain ⟨entry, hmem, hshadows⟩ := hshadowed
    exact ⟨entry.1, shadows_of_mem h (horder.mem_iff.mp hmem)
      (Bool.eq_true_of_not_eq_false hshadows)⟩

/-! ## Names that types are shown by -/

/-- An alias of a type that is shorter in bytes than its qualified name. -/
def IsShortAlias (b : Builder) (id : TypeId) (t : TypeDeclaration) (name : String) : Prop :=
  (name, id) ∈ b.aliases ∧ name.utf8ByteSize < t.qualifiedName.utf8ByteSize

/-- The name for a type with this declaration: the least of its short aliases, by length in bytes
and then in the order of bytes, or else its qualified name. -/
inductive ShownAs (b : Builder) (id : TypeId) (t : TypeDeclaration) : String → Prop
  | shortAlias {name : String} (hshort : b.IsShortAlias id t name)
      (hleast : ∀ other, b.IsShortAlias id t other → other = name ∨
        name.utf8ByteSize < other.utf8ByteSize ∨
          name.utf8ByteSize = other.utf8ByteSize ∧ Text.bytes name < Text.bytes other) :
      ShownAs b id t name
  | qualified (hnone : ∀ name, ¬ b.IsShortAlias id t name) : ShownAs b id t t.qualifiedName

/-- A registry shows its types by these names. -/
lemma shownAs_shortName (hbuild : b.build = .ok r) (ht : b.types[id.index]? = some t) :
    b.ShownAs id t (r.shortName id) := by
  have hdeclaration : r.declaration? id = some t := by
    rwa [Registry.declaration?, types_of_build hbuild]
  rw [shortName_of_build hbuild hdeclaration]
  have hbest := bestName_shortNameIn b.aliases id t.qualifiedName
  generalize shortNameIn b.aliases id t.qualifiedName = best at hbest
  cases hbest with
  | none hlong =>
    refine .qualified ?_
    rintro name ⟨hmem, hshorter⟩
    have := hlong name (mem_aliasesOf.mpr hmem)
    omega
  | some hmem hshorter hleast =>
    refine .shortAlias ⟨mem_aliasesOf.mp hmem, hshorter⟩ ?_
    rintro other ⟨hother, -⟩
    exact (hleast other (mem_aliasesOf.mpr hother)).imp_right precedes_iff_bytes.mp

/-- A type is shown by a name that is no longer than its qualified name and all its aliases. -/
lemma ShownAs.length_le {shown : String} (h : b.ShownAs id t shown)
    (hname : name = t.qualifiedName ∨ (name, id) ∈ b.aliases) :
    shown.utf8ByteSize ≤ name.utf8ByteSize := by
  have hqualified : shown.utf8ByteSize ≤ t.qualifiedName.utf8ByteSize := by
    cases h with
    | shortAlias hshort _ => exact hshort.2.le
    | qualified _ => exact le_rfl
  rcases hname with rfl | hmem
  · exact hqualified
  · by_cases hshorter : name.utf8ByteSize < t.qualifiedName.utf8ByteSize
    · cases h with
      | shortAlias _ hleast =>
        rcases hleast name ⟨hmem, hshorter⟩ with rfl | hlt | ⟨heq, -⟩
        · exact le_rfl
        · omega
        · omega
      | qualified hnone => exact absurd ⟨hmem, hshorter⟩ (hnone name)
    · omega

/-- Of all names that mean a type none is shorter than the one that it is shown by. -/
lemma length_shortName_le (h : b.Distinct) (hbuild : b.build = .ok r)
    (hname : r.resolve name = some id) (hid : id.index < r.size) :
    (r.shortName id).utf8ByteSize ≤ name.utf8ByteSize := by
  obtain ⟨t, ht, -⟩ := declaration_of_lt hid
  rw [types_of_build hbuild] at ht
  apply (shownAs_shortName hbuild ht).length_le
  rcases (resolve_eq_some_iff_of_build h hbuild).mp hname with halias | hqualified
  · exact Or.inr (mem_of_lookup halias)
  · obtain ⟨named, hnamed, rfl⟩ := exists_of_findQualified hqualified
    rw [ht] at hnamed
    exact Or.inl (congrArg TypeDeclaration.qualifiedName (Option.some.inj hnamed).symm)

end Builder

/-! ## The outcome -/

/-- **Freezing does not depend on the order of the aliases.**  Two orders of the aliases give the
same registry, if either of them gives one.  Otherwise some alias is the qualified name of a type
other than its own, and the error names such an alias.  A type of the registry is shown by the least
of its aliases that are shorter than its qualified name, or else by that. -/
theorem freezing_settled {b : Builder} (hb : b.Reachable) {order order' : AliasTable}
    (horder : order.Perm b.aliases) (horder' : order'.Perm b.aliases) :
    (∀ r, Registry.ofTables b.types order = .ok r ↔ Registry.ofTables b.types order' = .ok r) ∧
    ((∃ e, Registry.ofTables b.types order = .error e) ↔ ∃ name, b.Shadows name) ∧
    (∀ e, Registry.ofTables b.types order = .error e →
      ∃ name, b.Shadows name ∧ e = .aliasConflict name name) ∧
    ∀ r, Registry.ofTables b.types order = .ok r →
      ∀ (id : TypeId) (t : TypeDeclaration), b.types[id.index]? = some t →
        b.ShownAs id t (r.shortName id) := by
  have hdistinct := hb.sound.toDistinct
  have hnodup : ∀ {table : AliasTable}, table.Perm b.aliases → (table.map Prod.fst).Nodup :=
    fun htable => (htable.map Prod.fst).nodup_iff.mpr hdistinct.aliases_nodup
  refine ⟨?_, ?_, ?_, ?_⟩
  · intro r
    have hperm := horder.trans horder'.symm
    exact ⟨Registry.ofTables_eq_ok_of_perm (hnodup horder) hperm,
      Registry.ofTables_eq_ok_of_perm (hnodup horder') hperm.symm⟩
  · rw [Registry.exists_ofTables_eq_error_iff, Builder.exists_shadows_iff hdistinct horder]
  · intro e he
    obtain ⟨entry, hfind, rfl⟩ := Registry.ofTables_eq_error_iff.mp he
    exact ⟨entry.1, Builder.shadows_of_mem hdistinct
      (horder.mem_iff.mp (List.mem_of_find?_eq_some hfind)) (List.find?_some hfind), rfl⟩
  · intro r hr id t ht
    exact Builder.shownAs_shortName (Registry.ofTables_eq_ok_of_perm (hnodup horder) horder hr) ht

/-- The aliases in the opposite order give `mixedRegistry` as well, where `Text` is the least of the
two short aliases of its type. -/
theorem freezing_settled_of_mixedCalls :
    (Builder.empty.run mixedCalls).Reachable ∧
      (Builder.empty.run mixedCalls).aliases.reverse.Perm (Builder.empty.run mixedCalls).aliases ∧
      Registry.ofTables (Builder.empty.run mixedCalls).types
        (Builder.empty.run mixedCalls).aliases.reverse = .ok mixedRegistry ∧
      (¬ ∃ name, (Builder.empty.run mixedCalls).Shadows name) ∧
      ∃ t, (Builder.empty.run mixedCalls).types[1]? = some t ∧
        (Builder.empty.run mixedCalls).ShownAs ⟨1⟩ t "Text" := by
  have hreachable : (Builder.empty.run mixedCalls).Reachable := ⟨mixedCalls, owns_mixedCalls, rfl⟩
  have hreverse := List.reverse_perm (Builder.empty.run mixedCalls).aliases
  obtain ⟨hsame, herror, -, hshown⟩ := freezing_settled hreachable (List.Perm.refl _) hreverse
  refine ⟨hreachable, hreverse, (hsame mixedRegistry).mp build_mixedCalls, ?_, _, rfl,
    hshown mixedRegistry build_mixedCalls ⟨1⟩ _ rfl⟩
  rw [← herror]
  rintro ⟨e, he⟩
  have hbuild := build_mixedCalls
  rw [Builder.build, he] at hbuild
  cases hbuild

/-- An alias given before a type of that name was declared. -/
example : (Builder.empty.run
      [.declare "a.Box" none, .addAlias "Box" ⟨0⟩, .declare "Box" none]).build =
    .error (.aliasConflict "Box" "Box") := by
  rfl

end RuleMetrics
