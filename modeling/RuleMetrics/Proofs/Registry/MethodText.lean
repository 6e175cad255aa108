import RuleMetrics.Proofs.Except
import RuleMetrics.Proofs.Text.Pieces
import RuleMetrics.Registry.Catalog

/-!
# The text of a method in a catalog

`CatalogEntry.readMethod_eq_ok_iff` says what it takes for a method to be read: a name before the
first `(`, a `)` at the end, and arguments in between that are all read as usages.  Everything about
such texts follows from it without another look at the reader.
-/

namespace RuleMetrics

open Text

variable {b : Builder} {owner text : String} {m : MethodDeclaration}

/-- What the arguments of a method are read as: nothing if they are blank, or else one usage for
each piece between the commas. -/
def ReadsArguments (b : Builder) (interior : List Char) (parameters : List TypeUsage) : Prop :=
  allBlank interior = true ∧ parameters = [] ∨
    allBlank interior = false ∧ List.Forall₂
      (fun piece usage => b.resolveUsage (String.ofList piece) = .ok usage)
      (pieces ',' interior) parameters

/-- A method of a catalog is a name and arguments in parentheses. -/
lemma CatalogEntry.readMethod_eq_ok_iff :
    CatalogEntry.readMethod b owner text = .ok m ↔
      ∃ before interior, trimChars text.toList = before ++ '(' :: (interior ++ [')']) ∧
        '(' ∉ before ∧ trimChars before ≠ [] ∧ m.name = String.ofList (trimChars before) ∧
        ReadsArguments b interior m.parameters := by
  constructor
  · intro h
    unfold CatalogEntry.readMethod at h
    cases hcut : cut '(' (trimChars text.toList) with
    | none =>
      simp only [hcut] at h
      cases h
    | some parts =>
      obtain ⟨before, rest⟩ := parts
      simp only [hcut] at h
      obtain ⟨htext, hopening⟩ := eq_append_of_cut hcut
      by_cases hlast : rest.getLast? = some ')'
      · rw [if_neg (not_not.mpr hlast)] at h
        have hrest : rest = rest.dropLast ++ [')'] := (List.dropLast_append_getLast? ')' hlast).symm
        by_cases hname : trimChars before = []
        · rw [if_pos hname] at h
          cases h
        · rw [if_neg hname] at h
          refine ⟨before, rest.dropLast, by rw [← hrest, htext], hopening, hname, ?_⟩
          by_cases hblank : allBlank rest.dropLast = true
          · rw [if_pos hblank] at h
            cases h
            exact ⟨rfl, Or.inl ⟨hblank, rfl⟩⟩
          · rw [if_neg hblank] at h
            split at h
            · next parameters hparameters =>
              cases h
              exact ⟨rfl, Or.inr ⟨Bool.eq_false_iff.mpr hblank,
                List.mapM_eq_ok_iff.mp hparameters⟩⟩
            · cases h
      · rw [if_pos hlast] at h
        cases h
  · rintro ⟨before, interior, htext, hopening, hbefore, hname, harguments⟩
    obtain ⟨name, parameters⟩ := m
    obtain rfl : name = String.ofList (trimChars before) := hname
    have hlast : (interior ++ [')']).getLast? = some ')' := by simp
    unfold CatalogEntry.readMethod
    rw [htext, cut_append_cons hopening]
    dsimp only
    rw [if_neg (not_not.mpr hlast), if_neg hbefore, List.dropLast_concat]
    rcases harguments with ⟨hblank, hnone⟩ | ⟨hblank, hpieces⟩
    · rw [if_pos hblank, show parameters = [] from hnone]
    · rw [if_neg (Bool.eq_false_iff.mp hblank), List.mapM_eq_ok_iff.mpr hpieces]

end RuleMetrics
