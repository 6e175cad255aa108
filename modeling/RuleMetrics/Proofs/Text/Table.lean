import Mathlib.Algebra.BigOperators.Group.List.Lemmas
import Mathlib.Algebra.Ring.Nat
import Mathlib.Data.String.Basic
import RuleMetrics.Proofs.Entries
import RuleMetrics.Proofs.Sorting
import RuleMetrics.Text.Table

/-!
# Look-ups in tables

Putting an entry into a table changes the answer under its key and no other (`get?_insert`), and a
table is known when its answers are, because its entries are in order (`Table.eq_of_get?_eq`).

The table of counts is filled by going through the texts once.  Each text changes the answer for
itself (`CountsOf.insert`), so at the end every text that occurs has an entry, which says how often
it occurs (`countsOf_counts`).  Nothing in this depends on the order of the texts
(`counts_eq_of_perm`).
-/

namespace RuleMetrics.Text

variable {α : Type} {a : α} {key : String}

/-- An entry that is put in is found under its key, and nothing else changes. -/
lemma lookup_insertEntry (key : String) (a : α) (entries : List (String × α)) (key' : String) :
    (insertEntry key a entries).lookup key' =
      if key' = key then some a else entries.lookup key' := by
  induction entries with
  | nil => exact lookup_cons_eq key' (key, a) []
  | cons e rest ih =>
    unfold insertEntry
    split
    · exact lookup_cons_eq key' (key, a) (e :: rest)
    · split
      · next heq =>
        rw [lookup_cons_eq, lookup_cons_eq, heq]
        by_cases h : key' = e.1
        · rw [if_pos h, if_pos h]
        · rw [if_neg h, if_neg h, if_neg h]
      · next hne =>
        rw [lookup_cons_eq, lookup_cons_eq, ih]
        by_cases h : key' = e.1
        · rw [if_pos h, if_pos h, if_neg (h ▸ Ne.symm hne)]
        · rw [if_neg h, if_neg h]

namespace Table

variable {t t' : Table α}

lemma get?_insert (t : Table α) (key : String) (a : α) (key' : String) :
    (t.insert key a).get? key' = if key' = key then some a else t.get? key' :=
  lookup_insertEntry key a t.entries key'

lemma nodup_keys (t : Table α) : (t.entries.map Prod.fst).Nodup := by
  rw [List.Nodup, List.pairwise_map]
  exact t.ascending.imp ne_of_lt

lemma get?_eq_some_iff : t.get? key = some a ↔ (key, a) ∈ t.entries :=
  lookup_eq_some_iff_mem t.nodup_keys

/-- Tables with the same answers are the same. -/
lemma eq_of_get?_eq (h : ∀ key, t.get? key = t'.get? key) : t = t' := by
  have hperm : t.entries.Perm t'.entries := by
    rw [List.perm_ext_iff_of_nodup t.nodup_keys.of_map t'.nodup_keys.of_map]
    rintro ⟨key, a⟩
    rw [← get?_eq_some_iff, ← get?_eq_some_iff, h]
  have hentries : t.entries = t'.entries :=
    hperm.eq_of_ascending_keys t.nodup_keys (t.ascending.imp le_of_lt) (t'.ascending.imp le_of_lt)
  cases t
  cases t'
  cases hentries
  rfl

/-! ## Counts -/

variable {counted : Table Nat} {seen texts texts' : List String} {text : String} {n : Nat}

/-- The table has an entry for each text that was seen, with the number of times. -/
def CountsOf (counted : Table Nat) (seen : List String) : Prop :=
  ∀ text, counted.get? text = if text ∈ seen then some (seen.count text) else none

/-- One more text is counted under itself. -/
lemma CountsOf.insert (h : CountsOf counted seen) (text : String) :
    CountsOf (counted.insert text ((counted.get? text).getD 0 + 1)) (seen ++ [text]) := by
  intro other
  have hbefore : (counted.get? text).getD 0 = seen.count text := by
    rw [h text]
    by_cases hmem : text ∈ seen
    · rw [if_pos hmem, Option.getD_some]
    · rw [if_neg hmem, Option.getD_none, List.count_eq_zero_of_not_mem hmem]
  rw [get?_insert, hbefore]
  by_cases hother : other = text
  · subst hother
    simp
  · have hcount : (seen ++ [text]).count other = seen.count other := by
      rw [List.count_append, List.count_eq_zero_of_not_mem (List.mem_singleton.not.mpr hother),
        Nat.add_zero]
    rw [if_neg hother, h other, hcount]
    simp [hother]

/-- All texts are counted at the end.  The induction takes the last text off. -/
lemma countsOf_counts (texts : List String) : CountsOf (counts texts) texts := by
  induction texts using List.reverseRecOn with
  | nil => exact fun _ => rfl
  | append_singleton seen text ih =>
    have hlast : counts (seen ++ [text]) =
        (counts seen).insert text (((counts seen).get? text).getD 0 + 1) := by
      simp [counts]
    rw [hlast]
    exact ih.insert text

lemma mem_counts_iff :
    (text, n) ∈ (counts texts).entries ↔ n = texts.count text ∧ 0 < n := by
  rw [← get?_eq_some_iff, countsOf_counts texts text]
  by_cases hmem : text ∈ texts
  · have hpos := List.count_pos_iff.mpr hmem
    rw [if_pos hmem, Option.some.injEq]
    omega
  · have hzero := List.count_eq_zero_of_not_mem hmem
    rw [if_neg hmem]
    simp [hzero]

lemma mem_keys_counts_iff : text ∈ (counts texts).entries.map Prod.fst ↔ text ∈ texts := by
  rw [List.mem_map]
  constructor
  · rintro ⟨⟨_, n⟩, hentry, rfl⟩
    obtain ⟨rfl, hpos⟩ := mem_counts_iff.mp hentry
    exact List.count_pos_iff.mp hpos
  · intro hmem
    exact ⟨(text, texts.count text), mem_counts_iff.mpr ⟨rfl, List.count_pos_iff.mpr hmem⟩, rfl⟩

/-- No text is lost, and none is counted twice. -/
lemma sum_counts (texts : List String) :
    ((counts texts).entries.map Prod.snd).sum = texts.length := by
  have hkeys : ((counts texts).entries.map Prod.fst).Perm texts.dedup := by
    rw [List.perm_ext_iff_of_nodup (nodup_keys _) (List.nodup_dedup texts)]
    intro text
    rw [mem_keys_counts_iff, List.mem_dedup]
  have hvalues : (counts texts).entries.map Prod.snd =
      ((counts texts).entries.map Prod.fst).map fun text => texts.count text := by
    rw [List.map_map]
    apply List.map_congr_left
    rintro ⟨text, n⟩ hentry
    exact (mem_counts_iff.mp hentry).1
  calc
    ((counts texts).entries.map Prod.snd).sum
      = (((counts texts).entries.map Prod.fst).map fun text => texts.count text).sum := by
        rw [hvalues]
    _ = (texts.dedup.map fun text => texts.count text).sum := (hkeys.map _).sum_eq
    _ = texts.length := List.sum_map_count_dedup_eq_length texts

lemma counts_eq_of_perm (h : texts.Perm texts') : counts texts = counts texts' := by
  apply eq_of_get?_eq
  intro text
  rw [countsOf_counts texts text, countsOf_counts texts' text, h.count_eq]
  simp only [h.mem_iff]

end Table

end RuleMetrics.Text
