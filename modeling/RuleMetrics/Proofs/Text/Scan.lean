import Mathlib.Data.List.Basic
import RuleMetrics.Proofs.Text.Pieces

/-!
# Joined texts that hold the delimiter

Texts that do not hold the delimiter are found again where they were joined (`pieces_intercalate`).
Texts that do hold it are too, if something else tells its occurrences apart: a scanner that reads
from left to right, finds every delimiter inside a text in a state other than its first, and is back
in the first state at the end (`Scanner.Closes`).  Counting open brackets is such a scanner for
texts that have the delimiter between brackets only (`bracketScanner`).

`join_inj` says that such texts are determined by what they are joined to.
-/

namespace RuleMetrics.Text

/-- An automaton that reads a text character by character. -/
structure Scanner (σ : Type) where
  start : σ
  next : σ → Char → σ

variable {σ : Type} {s : Scanner σ} {d : Char} {state : σ}

/-- Whether the scanner, reading on from a state, is in its first state at the end of the text and
at none of the delimiters in it. -/
def Scanner.Closes (s : Scanner σ) (d : Char) (state : σ) : List Char → Prop
  | [] => state = s.start
  | c :: cs => (c = d → state ≠ s.start) ∧ s.Closes d (s.next state c) cs

instance Scanner.decidableCloses [DecidableEq σ] (s : Scanner σ) (d : Char) :
    (state : σ) → (cs : List Char) → Decidable (s.Closes d state cs)
  | state, [] => inferInstanceAs (Decidable (state = s.start))
  | state, c :: cs =>
    have := s.decidableCloses d (s.next state c) cs
    inferInstanceAs (Decidable ((c = d → state ≠ s.start) ∧ s.Closes d (s.next state c) cs))

/-- The scanner that counts open angle brackets. -/
def bracketScanner : Scanner Nat where
  start := 0
  next depth c := if c = '<' then depth + 1 else if c = '>' then depth - 1 else depth

/-- Of two texts that the scanner closes, each followed by a delimiter or by nothing, the first
delimiter outside tells where they end. -/
lemma Scanner.Closes.append_inj {cs cs' rest rest' : List Char} (h : s.Closes d state cs)
    (h' : s.Closes d state cs') (hrest : ∀ c ∈ rest.head?, c = d)
    (hrest' : ∀ c ∈ rest'.head?, c = d) (heq : cs ++ rest = cs' ++ rest') :
    cs = cs' ∧ rest = rest' := by
  induction cs generalizing state cs' with
  | nil =>
    cases cs' with
    | nil => exact ⟨rfl, heq⟩
    | cons c cs' =>
      have hc : c = d := hrest c (by rw [List.nil_append] at heq; simp [heq])
      exact absurd h (h'.1 hc)
  | cons c cs ih =>
    cases cs' with
    | nil =>
      have hc : c = d := hrest' c (by rw [List.nil_append] at heq; simp [← heq])
      exact absurd h' (h.1 hc)
    | cons c' cs' =>
      rw [List.cons_append, List.cons_append] at heq
      obtain ⟨rfl, htail⟩ := List.cons.inj heq
      obtain ⟨rfl, hsame⟩ := ih h.2 h'.2 htail
      exact ⟨rfl, hsame⟩

/-- Joined texts are the first one, and a delimiter in front of each of the others. -/
lemma intercalate_cons (d : Char) (text : List Char) (rest : List (List Char)) :
    [d].intercalate (text :: rest) = text ++ rest.flatMap fun other => d :: other := by
  induction rest generalizing text with
  | nil => simp
  | cons other rest ih =>
    rw [List.intercalate_cons_cons, ih, List.flatMap_cons]
    simp

lemma head?_flatMap_cons (d : Char) (texts : List (List Char)) :
    ∀ c ∈ (texts.flatMap fun text => d :: text).head?, c = d := by
  cases texts with
  | nil => simp
  | cons text rest => simp

/-- Texts are found again behind their delimiters. -/
lemma flatMap_cons_inj {texts texts' : List (List Char)}
    (h : ∀ text ∈ texts, s.Closes d s.start text) (h' : ∀ text ∈ texts', s.Closes d s.start text)
    (heq : (texts.flatMap fun text => d :: text) = texts'.flatMap fun text => d :: text) :
    texts = texts' := by
  induction texts generalizing texts' with
  | nil =>
    cases texts' with
    | nil => rfl
    | cons text' rest' => cases heq
  | cons text rest ih =>
    cases texts' with
    | nil => cases heq
    | cons text' rest' =>
      rw [List.flatMap_cons, List.flatMap_cons, List.cons_append, List.cons_append] at heq
      obtain ⟨rfl, hrest⟩ := (h text List.mem_cons_self).append_inj (h' text' List.mem_cons_self)
        (head?_flatMap_cons d rest) (head?_flatMap_cons d rest') (List.cons.inj heq).2
      rw [ih (fun t ht => h t (List.mem_cons_of_mem _ ht))
        (fun t ht => h' t (List.mem_cons_of_mem _ ht)) hrest]

lemma intercalate_inj {texts texts' : List (List Char)}
    (h : ∀ text ∈ texts, text ≠ [] ∧ s.Closes d s.start text)
    (h' : ∀ text ∈ texts', text ≠ [] ∧ s.Closes d s.start text)
    (heq : [d].intercalate texts = [d].intercalate texts') : texts = texts' := by
  cases texts with
  | nil =>
    cases texts' with
    | nil => rfl
    | cons text' rest' =>
      rw [intercalate_cons, List.intercalate_nil] at heq
      exact absurd (List.append_eq_nil_iff.mp heq.symm).1 (h' text' List.mem_cons_self).1
  | cons text rest =>
    cases texts' with
    | nil =>
      rw [intercalate_cons, List.intercalate_nil] at heq
      exact absurd (List.append_eq_nil_iff.mp heq).1 (h text List.mem_cons_self).1
    | cons text' rest' =>
      rw [intercalate_cons, intercalate_cons] at heq
      obtain ⟨rfl, hrest⟩ := (h text List.mem_cons_self).2.append_inj
        (h' text' List.mem_cons_self).2 (head?_flatMap_cons d rest) (head?_flatMap_cons d rest') heq
      rw [flatMap_cons_inj (fun t ht => (h t (List.mem_cons_of_mem _ ht)).2)
        (fun t ht => (h' t (List.mem_cons_of_mem _ ht)).2) hrest]

/-- Texts that are not empty and that a scanner closes are determined by what they are joined to. -/
lemma join_inj {texts texts' : List String}
    (h : ∀ text ∈ texts, text ≠ "" ∧ s.Closes d s.start text.toList)
    (h' : ∀ text ∈ texts', text ≠ "" ∧ s.Closes d s.start text.toList)
    (heq : join d.toString texts = join d.toString texts') : texts = texts' := by
  have hchars : ∀ {ts : List String}, (∀ t ∈ ts, t ≠ "" ∧ s.Closes d s.start t.toList) →
      ∀ cs ∈ ts.map String.toList, cs ≠ [] ∧ s.Closes d s.start cs := by
    intro ts hts cs hcs
    obtain ⟨t, ht, rfl⟩ := List.mem_map.mp hcs
    exact ⟨String.toList_eq_nil_iff.not.mpr (hts t ht).1, (hts t ht).2⟩
  have hlists := congrArg String.toList heq
  rw [toList_join, toList_join, Char.toString, String.toList_singleton] at hlists
  have hinjective : Function.Injective (List.map String.toList) :=
    List.map_injective_iff.mpr fun _ _ => String.toList_injective
  exact hinjective (intercalate_inj (hchars h) (hchars h') hlists)

end RuleMetrics.Text
