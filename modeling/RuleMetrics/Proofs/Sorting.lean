import Mathlib.Data.List.Sort
import Mathlib.Tactic.Common

/-!
# Stable sorting

Sorting keeps the order of elements that are level (`filter_mergeSort`).  So a sorted list is known
when the order of the elements of each key is: two sorted lists are equal if they have the same
elements of every key in the same order (`eq_of_filter_key_eq`).  If no two elements have the same
key it is enough that they have the same elements (`Perm.eq_of_ascending_keys`), and so sorting
forgets the order that they were in (`Perm.mergeSort_key_eq`).
-/

namespace List

variable {α κ : Type} {l l' : List α}

/-- Elements that are all level keep their order. -/
lemma filter_mergeSort {le : α → α → Bool} (htrans : ∀ a b c, le a b → le b c → le a c)
    (htotal : ∀ a b, le a b || le b a) {p : α → Bool} (hlevel : ∀ a b, p a → p b → le a b)
    (l : List α) : (l.mergeSort le).filter p = l.filter p := by
  have hpairwise : (l.filter p).Pairwise fun a b => le a b := by
    apply pairwise_of_forall_mem_list
    intro a ha b hb
    exact hlevel a b (mem_filter.mp ha).2 (mem_filter.mp hb).2
  have hsublist : (l.filter p).Sublist ((l.mergeSort le).filter p) := by
    have hfilter := (sublist_mergeSort htrans htotal hpairwise filter_sublist).filter p
    simpa only [filter_filter, Bool.and_self] using hfilter
  have hlength := ((mergeSort_perm l le).filter p).length_eq
  exact (hsublist.eq_of_length hlength.symm).symm

/-- The first element of a sorted list is not above an element of a list with the same elements of
every key. -/
lemma key_le_of_filter_key_eq [LinearOrder κ] {key : α → κ} {a b : α}
    (hl : (a :: l).Pairwise fun a b => key a ≤ key b) (hb : b ∈ l')
    (hkeys : ∀ k, ((a :: l).filter fun c => key c = k) = l'.filter fun c => key c = k) :
    key a ≤ key b := by
  have hmem : b ∈ (a :: l).filter fun c => key c = key b := by
    rw [hkeys]
    simpa using hb
  rcases mem_cons.mp (mem_filter.mp hmem).1 with rfl | hb
  · exact le_rfl
  · exact rel_of_pairwise_cons hl hb

/-- Two sorted lists with the same elements of each key in the same order. -/
lemma eq_of_filter_key_eq [LinearOrder κ] {key : α → κ}
    (hl : l.Pairwise fun a b => key a ≤ key b) (hl' : l'.Pairwise fun a b => key a ≤ key b)
    (hkeys : ∀ k, (l.filter fun a => key a = k) = l'.filter fun a => key a = k) : l = l' := by
  induction l generalizing l' with
  | nil =>
    cases l' with
    | nil => rfl
    | cons a rest => simpa using hkeys (key a)
  | cons a rest ih =>
    cases l' with
    | nil => simpa using hkeys (key a)
    | cons b rest' =>
      -- Both lists start with the first element of the least key.
      have hkey : key a = key b :=
        le_antisymm (key_le_of_filter_key_eq hl mem_cons_self hkeys)
          (key_le_of_filter_key_eq hl' mem_cons_self fun k => (hkeys k).symm)
      obtain rfl : a = b := by
        have hfirst := hkeys (key a)
        rw [filter_cons_of_pos (by simp), filter_cons_of_pos (by simp [hkey])] at hfirst
        exact (cons.inj hfirst).1
      have hrest : ∀ k, (rest.filter fun c => key c = k) = rest'.filter fun c => key c = k := by
        intro k
        have hall := hkeys k
        by_cases hk : key a = k
        · rw [filter_cons_of_pos (by simp [hk]), filter_cons_of_pos (by simp [hk])] at hall
          exact (cons.inj hall).2
        · rwa [filter_cons_of_neg (by simp [hk]), filter_cons_of_neg (by simp [hk])] at hall
      rw [ih hl.of_cons hl'.of_cons hrest]

/-- Elements with keys of their own are sorted in one way only. -/
lemma Perm.eq_of_ascending_keys [PartialOrder κ] {key : α → κ} (hperm : l.Perm l')
    (hnodup : (l.map key).Nodup) (hl : l.Pairwise fun a b => key a ≤ key b)
    (hl' : l'.Pairwise fun a b => key a ≤ key b) : l = l' := by
  refine hperm.eq_of_pairwise ?_ hl hl'
  intro a b ha hb hab hba
  exact inj_on_of_nodup_map hnodup ha (hperm.mem_iff.mpr hb) (le_antisymm hab hba)

/-- Sorting by a key leaves the keys in ascending order. -/
lemma ascending_mergeSort_key [LinearOrder κ] (key : α → κ) (l : List α) :
    (l.mergeSort fun a b => decide (key a ≤ key b)).Pairwise fun a b => key a ≤ key b := by
  refine (pairwise_mergeSort ?_ ?_ l).imp of_decide_eq_true
  · intro a b c hab hbc
    exact decide_eq_true ((of_decide_eq_true hab).trans (of_decide_eq_true hbc))
  · intro a b
    simpa using le_total (key a) (key b)

/-- If no two elements have the same key, each key is below those that follow. -/
lemma strictlyAscending_mergeSort_key [LinearOrder κ] {key : α → κ} (hnodup : (l.map key).Nodup) :
    (l.mergeSort fun a b => decide (key a ≤ key b)).Pairwise fun a b => key a < key b := by
  have hsort := mergeSort_perm l fun a b => decide (key a ≤ key b)
  have hdistinct := (hsort.map key).nodup_iff.mpr hnodup
  rw [Nodup, pairwise_map] at hdistinct
  refine ((ascending_mergeSort_key key l).and hdistinct).imp ?_
  intro a b hab
  exact lt_of_le_of_ne hab.1 hab.2

/-- Nor does the order before sorting matter then. -/
lemma Perm.mergeSort_key_eq [LinearOrder κ] {key : α → κ} (hperm : l.Perm l')
    (hnodup : (l.map key).Nodup) :
    (l.mergeSort fun a b => decide (key a ≤ key b)) =
      l'.mergeSort fun a b => decide (key a ≤ key b) := by
  have hsort := mergeSort_perm l fun a b => decide (key a ≤ key b)
  have hsort' := mergeSort_perm l' fun a b => decide (key a ≤ key b)
  exact ((hsort.trans hperm).trans hsort'.symm).eq_of_ascending_keys
    ((hsort.map key).nodup_iff.mpr hnodup) (ascending_mergeSort_key key l)
    (ascending_mergeSort_key key l')

end List
