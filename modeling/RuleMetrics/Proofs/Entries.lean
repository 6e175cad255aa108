import Mathlib.Data.List.Nodup
import Mathlib.Tactic.Common

/-!
# Entries under distinct keys

A look-up among entries answers with the first that has the key.  If no key occurs twice there is
only one, and the order of the entries does not matter (`lookup_eq_of_perm`).
-/

namespace RuleMetrics

variable {κ α : Type} [BEq κ] [LawfulBEq κ] {entries entries' : List (κ × α)} {key : κ} {a : α}

/-- The first entry answers for its key, and the others for all other keys. -/
lemma lookup_cons_eq [DecidableEq κ] (key : κ) (entry : κ × α) (entries : List (κ × α)) :
    (entry :: entries).lookup key = if key = entry.1 then some entry.2 else entries.lookup key := by
  obtain ⟨key', a⟩ := entry
  by_cases h : key = key'
  · simp [h]
  · have hbeq : (key == key') = false := beq_eq_false_iff_ne.mpr h
    rw [List.lookup_cons, hbeq, if_neg h]

lemma mem_of_lookup (h : entries.lookup key = some a) : (key, a) ∈ entries := by
  obtain ⟨before, after, rfl, -⟩ := List.lookup_eq_some_iff.mp h
  exact List.mem_append_right _ List.mem_cons_self

lemma lookup_of_mem (hnodup : (entries.map Prod.fst).Nodup) (h : (key, a) ∈ entries) :
    entries.lookup key = some a := by
  obtain ⟨before, after, rfl⟩ := List.append_of_mem h
  refine List.lookup_eq_some_iff.mpr ⟨before, after, rfl, ?_⟩
  intro entry hentry
  rw [List.map_append, List.map_cons, List.nodup_append] at hnodup
  have hne := hnodup.2.2 entry.1 (List.mem_map_of_mem hentry) key List.mem_cons_self
  simpa using hne.symm

lemma lookup_eq_some_iff_mem (hnodup : (entries.map Prod.fst).Nodup) :
    entries.lookup key = some a ↔ (key, a) ∈ entries :=
  ⟨mem_of_lookup, lookup_of_mem hnodup⟩

/-- The order of the entries does not matter to a look-up. -/
lemma lookup_eq_of_perm (hnodup : (entries.map Prod.fst).Nodup) (hperm : entries.Perm entries')
    (key : κ) : entries'.lookup key = entries.lookup key := by
  have hnodup' : (entries'.map Prod.fst).Nodup := (hperm.map Prod.fst).nodup_iff.mp hnodup
  apply Option.ext
  intro a
  rw [lookup_eq_some_iff_mem hnodup, lookup_eq_some_iff_mem hnodup', hperm.mem_iff]

end RuleMetrics
