import Mathlib.Data.List.Perm.Basic
import Mathlib.Data.List.Induction
import RuleMetrics.Proofs.Registry.Run
import RuleMetrics.Proofs.Text.Bytes

/-!
# Short names

A short name is found by going through the aliases once, in whatever order they stand.  The order
does not matter: `shortNameIn_congr` says that the short name of a type depends on nothing but its
qualified name and the set of its aliases.

What is found is the least of the aliases, by length in bytes and then in byte order, provided that
it is shorter than the qualified name (`bestName_shortNameIn`).  An alias is compared with the
qualified name only while there is no short name yet.  Later that is not necessary, because a
better alias is no longer than the one before it.
-/

namespace RuleMetrics

variable {aliases aliases' : AliasTable} {id id' : TypeId} {name : String}

lemma precedes_iff {name other : String} :
    precedes name other = true ↔ name.utf8ByteSize < other.utf8ByteSize ∨
      name.utf8ByteSize = other.utf8ByteSize ∧ name < other := by
  simp [precedes]

/-- Names of the same length are in the order of their bytes. -/
lemma precedes_iff_bytes {name other : String} :
    precedes name other = true ↔ name.utf8ByteSize < other.utf8ByteSize ∨
      name.utf8ByteSize = other.utf8ByteSize ∧ Text.bytes name < Text.bytes other := by
  rw [precedes_iff, Text.lt_iff_bytes_lt]

/-- Two aliases may be seen in either order. -/
lemma betterShortName_comm (qualified : String) (best : Option String) (name other : String) :
    betterShortName qualified (betterShortName qualified best name) other =
      betterShortName qualified (betterShortName qualified best other) name := by
  have htotal := lt_trichotomy name other
  cases best with
  | none =>
    simp only [betterShortName]
    grind [precedes_iff]
  | some current =>
    simp only [betterShortName]
    grind [precedes_iff]

/-- The aliases of a type. -/
def aliasesOf (aliases : AliasTable) (id : TypeId) : List String :=
  (aliases.filter fun entry => decide (entry.2 = id)).map Prod.fst

lemma mem_aliasesOf : name ∈ aliasesOf aliases id ↔ (name, id) ∈ aliases := by
  simp [aliasesOf]

lemma nodup_aliasesOf (h : (aliases.map Prod.fst).Nodup) : (aliasesOf aliases id).Nodup :=
  h.sublist (List.filter_sublist.map Prod.fst)

/-- The other aliases are passed over. -/
lemma shortNameIn_eq_foldl (qualified : String) :
    shortNameIn aliases id qualified =
      (aliasesOf aliases id).foldl (betterShortName qualified) none := by
  unfold shortNameIn aliasesOf
  rw [List.foldl_map, List.foldl_filter]
  simp only [decide_eq_true_eq]

/-- Types with the same aliases and the same qualified name have the same short name. -/
lemma shortNameIn_congr (h : (aliases.map Prod.fst).Nodup) (h' : (aliases'.map Prod.fst).Nodup)
    (hsame : ∀ name, (name, id) ∈ aliases ↔ (name, id') ∈ aliases') (qualified : String) :
    shortNameIn aliases id qualified = shortNameIn aliases' id' qualified := by
  have hperm : (aliasesOf aliases id).Perm (aliasesOf aliases' id') := by
    rw [List.perm_ext_iff_of_nodup (nodup_aliasesOf h) (nodup_aliasesOf h')]
    intro name
    rw [mem_aliasesOf, mem_aliasesOf, hsame]
  rw [shortNameIn_eq_foldl, shortNameIn_eq_foldl]
  exact hperm.foldl_eq' (fun name _ other _ best => betterShortName_comm qualified best name other)
    none

/-! ## The least alias -/

/-- What is best among some names for a type with this qualified name: the least of them if it is
shorter in bytes than the qualified name, and else none. -/
inductive BestName (qualified : String) (names : List String) : Option String → Prop
  | none (h : ∀ name ∈ names, qualified.utf8ByteSize ≤ name.utf8ByteSize) :
      BestName qualified names none
  | some {best : String} (hmem : best ∈ names)
      (hshorter : best.utf8ByteSize < qualified.utf8ByteSize)
      (hleast : ∀ name ∈ names, name = best ∨ precedes best name = true) :
      BestName qualified names (some best)

lemma precedes_trans {name other third : String} (h : precedes name other = true)
    (h' : precedes other third = true) : precedes name third = true := by
  rw [precedes_iff] at h h' ⊢
  rcases h with h | ⟨h, hlt⟩
  · exact Or.inl (by omega)
  · rcases h' with h' | ⟨h', hlt'⟩
    · exact Or.inl (by omega)
    · exact Or.inr ⟨h.trans h', hlt.trans hlt'⟩

/-- Of two names one comes first. -/
lemma eq_or_precedes_of_not_precedes {name other : String} (h : ¬ precedes name other = true) :
    name = other ∨ precedes other name = true := by
  rw [precedes_iff] at h ⊢
  rcases lt_trichotomy name.utf8ByteSize other.utf8ByteSize with hlt | heq | hgt
  · exact absurd (Or.inl hlt) h
  · rcases lt_trichotomy name other with hlt | heq' | hgt
    · exact absurd (Or.inr ⟨heq, hlt⟩) h
    · exact Or.inl heq'
    · exact Or.inr (Or.inr ⟨heq.symm, hgt⟩)
  · exact Or.inr (Or.inl hgt)

/-- One more name is seen, and the best of all is known again. -/
lemma BestName.step {qualified : String} {names : List String} {best : Option String}
    (h : BestName qualified names best) (name : String) :
    BestName qualified (names ++ [name]) (betterShortName qualified best name) := by
  cases h with
  | none hlong =>
    unfold betterShortName
    by_cases hshorter : name.utf8ByteSize < qualified.utf8ByteSize
    · simp only [if_pos hshorter]
      refine .some (List.mem_append_right _ List.mem_cons_self) hshorter ?_
      intro other hother
      rcases List.mem_append.mp hother with hother | hother
      · have := hlong other hother
        exact Or.inr (precedes_iff.mpr (Or.inl (by omega)))
      · exact Or.inl (List.mem_singleton.mp hother)
    · simp only [if_neg hshorter]
      refine .none fun other hother => ?_
      rcases List.mem_append.mp hother with hother | hother
      · exact hlong other hother
      · rw [List.mem_singleton.mp hother]
        omega
  | @some current hmem hshorter hleast =>
    unfold betterShortName
    by_cases hbetter : precedes name current = true
    · simp only [if_pos hbetter]
      have hlength : name.utf8ByteSize ≤ current.utf8ByteSize := by
        rcases precedes_iff.mp hbetter with hlt | ⟨heq, -⟩
        · omega
        · omega
      refine .some (List.mem_append_right _ List.mem_cons_self) (by omega) ?_
      intro other hother
      rcases List.mem_append.mp hother with hother | hother
      · rcases hleast other hother with rfl | hafter
        · exact Or.inr hbetter
        · exact Or.inr (precedes_trans hbetter hafter)
      · exact Or.inl (List.mem_singleton.mp hother)
    · simp only [if_neg hbetter]
      refine .some (List.mem_append_left _ hmem) hshorter ?_
      intro other hother
      rcases List.mem_append.mp hother with hother | hother
      · exact hleast other hother
      · rw [List.mem_singleton.mp hother]
        exact eq_or_precedes_of_not_precedes hbetter

/-- Going through the aliases of a type finds the best of them. -/
lemma bestName_shortNameIn (aliases : AliasTable) (id : TypeId) (qualified : String) :
    BestName qualified (aliasesOf aliases id) (shortNameIn aliases id qualified) := by
  rw [shortNameIn_eq_foldl]
  induction aliasesOf aliases id using List.reverseRecOn with
  | nil => exact .none (by simp)
  | append_singleton names name ih =>
    rw [List.foldl_append, List.foldl_cons, List.foldl_nil]
    exact ih.step name

/-- The short name of a type, if it has one, is one of its aliases. -/
lemma mem_of_shortNameIn {qualified short : String}
    (h : shortNameIn aliases id qualified = some short) : (short, id) ∈ aliases := by
  have hbest := bestName_shortNameIn aliases id qualified
  rw [h] at hbest
  cases hbest with
  | some hmem _ _ => exact mem_aliasesOf.mp hmem

/-! ## The name that a type is shown by -/

/-- The name that a type is shown by, in the tables that the registry was frozen from. -/
lemma Builder.shortName_of_build {b : Builder} {r : Registry} (hbuild : b.build = .ok r)
    {t : TypeDeclaration} (ht : r.declaration? id = some t) :
    r.shortName id = (shortNameIn b.aliases id t.qualifiedName).getD t.qualifiedName := by
  have hplace : r.shortNames[id.index]? = some (shortNameIn b.aliases id t.qualifiedName) := by
    unfold Registry.declaration? at ht
    rw [types_of_build hbuild] at ht
    rw [(build_eq_ok_iff.mp hbuild).2]
    simp only [List.getElem?_mapIdx, ht, Option.map_some]
  unfold Registry.shortName Registry.qualifiedName
  rw [hplace, ht]
  cases shortNameIn b.aliases id t.qualifiedName with
  | none => rfl
  | some short => rfl

end RuleMetrics
