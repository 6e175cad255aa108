import RuleMetrics.Proofs.Entries
import RuleMetrics.Registry.Builder

/-!
# Names in tables of types and aliases

A name is looked up among the aliases and then among the qualified names.  This module says what
such a look-up answers when no qualified name and no alias occurs twice, and when no alias is the
qualified name of another type (`Unshadowed`, which `Builder.build` checks): then the order of the
two tables does not matter (`findNamed_eq_some_iff`), nor does the order of the aliases
(`lookup_eq_of_perm`), and what is found stays found when the tables grow at their ends
(`findNamed_of_isPrefix`).
-/

namespace RuleMetrics

variable {types types' : List TypeDeclaration} {aliases aliases' : AliasTable}
  {name : String} {id : TypeId}

/-! ## Qualified names -/

/-- The qualified names of types, in order. -/
def qualifiedNames (types : List TypeDeclaration) : List String :=
  types.map TypeDeclaration.qualifiedName

/-- Looking for a qualified name reads nothing but the names. -/
lemma findQualified_eq_findIdx (types : List TypeDeclaration) (name : String) :
    findQualified types name = ((qualifiedNames types).findIdx? (· == name)).map TypeId.mk := by
  unfold findQualified qualifiedNames
  rw [List.findIdx?_map]
  rfl

lemma exists_of_findQualified (h : findQualified types name = some id) :
    ∃ t, types[id.index]? = some t ∧ t.qualifiedName = name := by
  obtain ⟨i, hi, rfl⟩ := Option.map_eq_some_iff.mp h
  obtain ⟨hlt, hname, -⟩ := List.findIdx?_eq_some_iff_getElem.mp hi
  exact ⟨types[i], List.getElem?_eq_getElem hlt, eq_of_beq hname⟩

lemma lt_of_findQualified (h : findQualified types name = some id) : id.index < types.length := by
  obtain ⟨t, ht, -⟩ := exists_of_findQualified h
  exact (List.getElem?_eq_some_iff.mp ht).1

/-- A type is found by its name when no other has that name. -/
lemma findQualified_of_getElem? {i : Nat} {t : TypeDeclaration}
    (hnodup : (qualifiedNames types).Nodup) (ht : types[i]? = some t) :
    findQualified types t.qualifiedName = some ⟨i⟩ := by
  obtain ⟨hi, rfl⟩ := List.getElem?_eq_some_iff.mp ht
  unfold findQualified
  rw [Option.map_eq_some_iff]
  refine ⟨i, List.findIdx?_eq_some_iff_getElem.mpr ⟨hi, beq_self_eq_true _, ?_⟩, rfl⟩
  intro j hj heq
  have hlength : j < (qualifiedNames types).length := by
    unfold qualifiedNames
    rw [List.length_map]
    omega
  have hsame : (qualifiedNames types)[j]? = (qualifiedNames types)[i]? := by
    have hj' : j < types.length := by omega
    simpa [qualifiedNames, hi, hj'] using heq
  have := (List.getElem?_inj hlength hnodup).mp hsame
  omega

lemma findQualified_of_isPrefix (hstart : qualifiedNames types <+: qualifiedNames types')
    (h : findQualified types name = some id) : findQualified types' name = some id := by
  rw [findQualified_eq_findIdx, Option.map_eq_some_iff] at h ⊢
  obtain ⟨i, hi, rfl⟩ := h
  exact ⟨i, hstart.findIdx?_eq_some hi, rfl⟩

lemma findQualified_eq_none_iff :
    findQualified types name = none ↔ name ∉ qualifiedNames types := by
  rw [findQualified_eq_findIdx, Option.map_eq_none_iff, List.findIdx?_eq_none_iff]
  constructor
  · intro h hmem
    simpa using h name hmem
  · intro h other hother
    rw [beq_eq_false_iff_ne]
    rintro rfl
    exact h hother

/-! ## Both tables -/

/-- No alias is the qualified name of a type other than its own. -/
def Unshadowed (types : List TypeDeclaration) (aliases : AliasTable) : Prop :=
  ∀ entry ∈ aliases, shadows types entry = false

instance decidableUnshadowed (types : List TypeDeclaration) (aliases : AliasTable) :
    Decidable (Unshadowed types aliases) :=
  inferInstanceAs (Decidable (∀ entry ∈ aliases, shadows types entry = false))

/-- An alias that is also a qualified name belongs to the type of that name. -/
lemma Unshadowed.eq_of_mem (h : Unshadowed types aliases) (hmem : (name, id) ∈ aliases)
    {named : TypeId} (hnamed : findQualified types name = some named) : named = id := by
  have hshadow := h (name, id) hmem
  unfold shadows at hshadow
  rw [hnamed] at hshadow
  simpa using hshadow

/-- With aliases and qualified names in agreement, a name means a type when either table says so,
whichever is asked first. -/
lemma findNamed_eq_some_iff (h : Unshadowed types aliases) :
    findNamed types aliases name = some id ↔
      aliases.lookup name = some id ∨ findQualified types name = some id := by
  unfold findNamed
  cases halias : aliases.lookup name with
  | none => simp
  | some other =>
    constructor
    · rintro ⟨⟩
      exact Or.inl rfl
    · rintro (hsame | hnamed)
      · exact hsame
      · rw [h.eq_of_mem (mem_of_lookup halias) hnamed]

lemma lt_of_findNamed (haliases : ∀ entry ∈ aliases, entry.2.index < types.length)
    (h : findNamed types aliases name = some id) : id.index < types.length := by
  unfold findNamed at h
  cases halias : aliases.lookup name with
  | none =>
    rw [halias] at h
    exact lt_of_findQualified h
  | some other =>
    rw [halias] at h
    cases h
    exact haliases _ (mem_of_lookup halias)

/-- What a name means among the first types and aliases it means among all, if the aliases agree
with the qualified names in the end. -/
lemma findNamed_of_isPrefix (hunshadowed : Unshadowed types' aliases')
    (htypes : qualifiedNames types <+: qualifiedNames types') (haliases : aliases <+: aliases')
    (h : findNamed types aliases name = some id) : findNamed types' aliases' name = some id := by
  rw [findNamed_eq_some_iff hunshadowed]
  unfold findNamed at h
  cases halias : aliases.lookup name with
  | none =>
    rw [halias] at h
    exact Or.inr (findQualified_of_isPrefix htypes h)
  | some other =>
    rw [halias] at h
    cases h
    exact Or.inl (haliases.lookup_eq_some halias)

end RuleMetrics
