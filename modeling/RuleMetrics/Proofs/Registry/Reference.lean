import RuleMetrics.Proofs.Text.Pieces
import RuleMetrics.Proofs.Text.Trim
import RuleMetrics.Registry.Reference

/-!
# Names and arguments in references

What stands between the parentheses of a reference is cut at its commas (`argumentTexts`), which
undoes joining (`argumentTexts_join`).  A name that is plain (`IsPlain`) has nothing in it that
could be taken for a part of a reference.
-/

namespace RuleMetrics

open Text

/-! ## Plain names -/

/-- A name without blanks and without any character that has a meaning in a reference. -/
def IsPlain (name : String) : Prop :=
  name ≠ "" ∧ ∀ c ∈ name.toList, isBlank c = false ∧ c ∉ ['#', '(', ')', ',', '[', ']']

namespace IsPlain

variable {name : String}

instance decidable (name : String) : Decidable (IsPlain name) :=
  decidable_of_iff
    (name ≠ "" ∧ (name.toList.all fun c =>
      !isBlank c && decide (c ∉ ['#', '(', ')', ',', '[', ']'])) = true)
    (by simp [IsPlain])

lemma not_mem (h : IsPlain name) {c : Char} (hc : c ∈ ['#', '(', ')', ',', '[', ']']) :
    c ∉ name.toList :=
  fun hmem => (h.2 c hmem).2 hc

lemma trimmed (h : IsPlain name) : Trimmed name.toList :=
  Trimmed.of_forall fun c hc => (h.2 c hc).1

lemma trimChars_ne_nil (h : IsPlain name) : trimChars name.toList ≠ [] := by
  rw [h.trimmed.trimChars_eq, Ne, String.toList_eq_nil_iff]
  exact h.1

end IsPlain

namespace Reference

/-! ## Parts of a reference -/

/-- The arguments between two parentheses, trimmed.  Blanks alone are no arguments. -/
def argumentTexts (interior : List Char) : List String :=
  if allBlank interior then []
  else (pieces ',' interior).map fun piece => String.ofList (trimChars piece)

/-- Arguments are found again where they were joined. -/
lemma argumentTexts_join {texts : List String} (hne : ∀ text ∈ texts, text.toList ≠ [])
    (hchars : ∀ text ∈ texts, ∀ c ∈ text.toList, isBlank c = false ∧ c ≠ ',') :
    argumentTexts (join "," texts).toList = texts := by
  unfold argumentTexts
  cases texts with
  | nil => rfl
  | cons text rest =>
    have htrimmed : ∀ other ∈ text :: rest, String.ofList (trimChars other.toList) = other := by
      intro other hother
      rw [(Trimmed.of_forall fun c hc => (hchars other hother c hc).1).trimChars_eq,
        String.ofList_toList]
    have hcut : pieces ',' (join "," (text :: rest)).toList = (text :: rest).map String.toList := by
      rw [toList_join]
      apply pieces_intercalate
      · simp
      · intro piece hpiece hcomma
        obtain ⟨other, hother, rfl⟩ := List.mem_map.mp hpiece
        exact (hchars other hother ',' hcomma).2 rfl
    have hsome : ¬ allBlank (join "," (text :: rest)).toList = true := by
      obtain ⟨c, hc⟩ := List.exists_mem_of_ne_nil _ (hne text List.mem_cons_self)
      have hmem : c ∈ (join "," (text :: rest)).toList := by
        rw [toList_join, List.map_cons]
        cases rest <;> simp [hc]
      intro hblank
      have hboth := (hchars text List.mem_cons_self c hc).1
      rw [allBlank_iff.mp hblank c hmem] at hboth
      cases hboth
    rw [if_neg hsome, hcut, List.map_map]
    exact (List.map_congr_left htrimmed).trans (List.map_id _)

end Reference

end RuleMetrics
