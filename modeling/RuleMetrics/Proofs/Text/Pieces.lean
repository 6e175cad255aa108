import Mathlib.Tactic.Common
import RuleMetrics.Text.Cut

/-!
# Cutting and joining texts

`cut` finds the first delimiter: `cut_append_cons` and `eq_append_of_cut` say that it answers with
the one split of the text at a delimiter before which there is none.  `pieces` goes on to the end
of the text, and `pieces_intercalate` says that it undoes joining, as long as there is a piece and
no piece holds the delimiter.  `piecesOf_join` states the same of strings.
-/

namespace RuleMetrics.Text

variable {c d : Char} {cs before after piece : List Char}

/-! ## The first delimiter -/

lemma cut_append_cons (hbefore : d ∉ before) (after : List Char) :
    cut d (before ++ d :: after) = some (before, after) := by
  induction before with
  | nil => simp [cut]
  | cons c before ih =>
    obtain ⟨hne, hbefore⟩ := not_or.mp (List.mem_cons.not.mp hbefore)
    rw [List.cons_append, cut, if_neg (Ne.symm hne), ih hbefore]
    rfl

lemma eq_append_of_cut (h : cut d cs = some (before, after)) :
    cs = before ++ d :: after ∧ d ∉ before := by
  induction cs generalizing before with
  | nil => simp [cut] at h
  | cons c cs ih =>
    by_cases hc : c = d
    · rw [cut, if_pos hc] at h
      obtain ⟨rfl, rfl⟩ := Prod.mk.inj (Option.some.inj h)
      simp [hc]
    · rw [cut, if_neg hc, Option.map_eq_some_iff] at h
      obtain ⟨⟨before', after'⟩, hcut, heq⟩ := h
      obtain ⟨rfl, rfl⟩ := Prod.mk.inj heq
      obtain ⟨rfl, hbefore⟩ := ih hcut
      refine ⟨rfl, ?_⟩
      rw [List.mem_cons, not_or]
      exact ⟨Ne.symm hc, hbefore⟩

/-- The first delimiter of a text stands in one place. -/
lemma append_cons_inj {before' after' : List Char} (hbefore : d ∉ before) (hbefore' : d ∉ before')
    (h : before ++ d :: after = before' ++ d :: after') : before = before' ∧ after = after' := by
  have hcut := cut_append_cons hbefore after
  rw [h, cut_append_cons hbefore'] at hcut
  obtain ⟨rfl, rfl⟩ := Prod.mk.inj (Option.some.inj hcut)
  exact ⟨rfl, rfl⟩

lemma cut_eq_none_iff : cut d cs = none ↔ d ∉ cs := by
  induction cs with
  | nil => simp [cut]
  | cons c cs ih =>
    by_cases hc : c = d
    · simp [cut, hc]
    · simp [cut, hc, ih, Ne.symm hc]

/-! ## All delimiters -/

/-- Cutting at a delimiter is splitting a list at an element. -/
lemma pieces_eq_splitOn (d : Char) (cs : List Char) : pieces d cs = cs.splitOn d := by
  induction cs with
  | nil => rfl
  | cons c cs ih =>
    rw [List.splitOn_cons_eq_if_modifyHead, pieces]
    by_cases hc : c = d
    · simp [hc, ih]
    · cases hsplit : cs.splitOn d with
      | nil => exact absurd hsplit (List.splitOn_ne_nil d cs)
      | cons first rest => simp [hc, ih, hsplit]

/-- Cutting at every delimiter undoes joining. -/
lemma pieces_intercalate {ps : List (List Char)} (hne : ps ≠ []) (hd : ∀ p ∈ ps, d ∉ p) :
    pieces d ([d].intercalate ps) = ps := by
  rw [pieces_eq_splitOn]
  exact List.splitOn_intercalate d hd hne

/-- Joining adds delimiters and nothing else. -/
lemma eq_or_mem_of_mem_intercalate {ps : List (List Char)} (h : c ∈ [d].intercalate ps) :
    c = d ∨ ∃ p ∈ ps, c ∈ p := by
  induction ps with
  | nil => simp at h
  | cons p ps ih =>
    cases ps with
    | nil =>
      rw [List.intercalate_singleton] at h
      exact Or.inr ⟨p, List.mem_cons_self, h⟩
    | cons q ps =>
      rw [List.intercalate_cons_cons, List.mem_append, List.mem_append, List.mem_singleton] at h
      rcases h with (h | h) | h
      · exact Or.inr ⟨p, List.mem_cons_self, h⟩
      · exact Or.inl h
      · rcases ih h with hd | ⟨p', hp', hc⟩
        · exact Or.inl hd
        · exact Or.inr ⟨p', List.mem_cons_of_mem p hp', hc⟩

/-- Every character of a text is a delimiter or stands in a piece. -/
lemma eq_or_mem_piece_of_mem (d : Char) (h : c ∈ cs) :
    c = d ∨ ∃ piece ∈ pieces d cs, c ∈ piece := by
  rw [pieces_eq_splitOn]
  apply eq_or_mem_of_mem_intercalate
  rwa [List.intercalate_splitOn]

/-! ## Strings -/

lemma toList_join (separator : String) (texts : List String) :
    (join separator texts).toList = separator.toList.intercalate (texts.map String.toList) := by
  unfold join
  exact String.toList_intercalate

lemma join_singleton (separator text : String) : join separator [text] = text := rfl

lemma eq_or_mem_of_mem_join {texts : List String} (h : c ∈ (join d.toString texts).toList) :
    c = d ∨ ∃ text ∈ texts, c ∈ text.toList := by
  rw [toList_join, Char.toString, String.toList_singleton] at h
  rcases eq_or_mem_of_mem_intercalate h with hd | ⟨piece, hpiece, hc⟩
  · exact Or.inl hd
  · obtain ⟨text, htext, rfl⟩ := List.mem_map.mp hpiece
    exact Or.inr ⟨text, htext, hc⟩

/-- Joining texts that do not hold the delimiter and cutting the result at it gives them back. -/
lemma piecesOf_join {texts : List String} (hne : texts ≠ []) (hd : ∀ t ∈ texts, d ∉ t.toList) :
    piecesOf d (join d.toString texts) = texts := by
  unfold piecesOf
  rw [toList_join, Char.toString, String.toList_singleton, pieces_intercalate]
  · rw [List.map_map]
    exact List.map_id'' (fun _ => String.ofList_toList) texts
  · simpa using hne
  · intro p hp
    obtain ⟨t, ht, rfl⟩ := List.mem_map.mp hp
    exact hd t ht

end RuleMetrics.Text
