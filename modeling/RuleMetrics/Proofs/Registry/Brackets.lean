import RuleMetrics.Proofs.Text.Trim
import RuleMetrics.Registry.Usage

/-!
# Pairs of brackets

A type usage is a base with pairs of brackets behind it, each perhaps after blanks (`Bracketed`).
The base is trimmed and does not end in a pair itself (`IsBase`).  `TypeUsage.split` takes the pairs
off, and `split_eq_iff` says that it finds the one base and the one number of pairs that make up the
trimmed text.

The loop takes one pair off at a time, so both directions are inductions on the pairs, and each
uses what a pair at the end of a text does to the answer (`split_append_pair`).
-/

namespace RuleMetrics.TypeUsage

open Text

variable {base blanks cs : List Char} {n : Nat}

/-! ## Bases and pairs -/

/-- A text that is `base` and `n` pairs of brackets, with blanks or nothing before each pair. -/
inductive Bracketed (base : List Char) : Nat → List Char → Prop
  | base : Bracketed base 0 base
  | pair {n : Nat} {cs blanks : List Char} (h : Bracketed base n cs)
      (hblanks : allBlank blanks = true) : Bracketed base (n + 1) (cs ++ blanks ++ ['[', ']'])

/-- Nothing can be taken off a base: it is trimmed, and no pair of brackets is at its end. -/
structure IsBase (base : List Char) : Prop where
  trimmed : Trimmed base
  no_pair : ¬ ['[', ']'] <:+ base

/-- Pairs can be taken off in portions. -/
lemma Bracketed.trans {m : Nat} {ds : List Char} (h : Bracketed base m cs)
    (h' : Bracketed cs n ds) : Bracketed base (m + n) ds := by
  induction h' with
  | base => exact h
  | pair _ hblanks ih => exact ih.pair hblanks

/-- Behind its base a text holds blanks and brackets only. -/
lemma Bracketed.mem_cases {c : Char} (h : Bracketed base n cs) (hc : c ∈ cs) :
    c ∈ base ∨ isBlank c = true ∨ c = '[' ∨ c = ']' := by
  induction h with
  | base => exact Or.inl hc
  | pair _ hblanks ih =>
    rw [List.mem_append, List.mem_append] at hc
    rcases hc with (hc | hc) | hc
    · exact ih hc
    · exact Or.inr (Or.inl (allBlank_iff.mp hblanks c hc))
    · exact Or.inr (Or.inr (List.mem_pair.mp hc))

/-! ## Taking pairs off -/

lemma trimChars_append_pair (cs : List Char) :
    trimChars (cs ++ ['[', ']']) = trimStartChars cs ++ ['[', ']'] := by
  have hstart : trimStartChars (cs ++ ['[', ']']) = trimStartChars cs ++ ['[', ']'] := by
    unfold trimStartChars
    rw [List.dropWhile_append]
    split
    · next hblank =>
      rw [List.isEmpty_iff] at hblank
      rw [hblank]
      rfl
    · rfl
  have hend : ∀ xs : List Char, trimEndChars (xs ++ ['[', ']']) = xs ++ ['[', ']'] := by
    intro xs
    apply trimEndChars_eq_self
    simp only [List.getLast?_append, Option.mem_def]
    rintro c ⟨⟩
    decide
  rw [trimChars, hstart, hend]

/-- A pair at the end of a text is taken off, and counts one. -/
lemma split_append_pair (cs : List Char) :
    split (cs ++ ['[', ']']) = ((split cs).1, (split cs).2 + 1) := by
  have hrest : (trimStartChars cs).reverse.dropWhile isBlank = (trimChars cs).reverse := by
    rw [trimChars, trimEndChars, List.reverse_reverse]
  have hreverse : (trimStartChars cs ++ ['[', ']']).reverse =
      ']' :: '[' :: (trimStartChars cs).reverse := by
    rw [List.reverse_append]
    rfl
  unfold split
  rw [trimChars_append_pair, hreverse, stripBrackets, hrest]

lemma split_append_blank (hblanks : allBlank blanks = true) : split (cs ++ blanks) = split cs := by
  unfold split
  rw [trimChars_append_blank hblanks]

lemma split_append_replicate (cs : List Char) (n : Nat) :
    split (cs ++ (List.replicate n ['[', ']']).flatten) = ((split cs).1, (split cs).2 + n) := by
  induction n with
  | zero => simp
  | succ n ih =>
    rw [List.replicate_succ', List.flatten_concat, ← List.append_assoc, split_append_pair, ih]
    rfl

lemma split_trimChars (cs : List Char) : split (trimChars cs) = split cs := by
  unfold split
  rw [trimChars_trimChars]

/-- Without a pair at its end a text is only trimmed. -/
lemma split_of_no_pair (h : ¬ ['[', ']'] <:+ trimChars cs) : split cs = (trimChars cs, 0) := by
  have hstop : stripBrackets (trimChars cs).reverse = ((trimChars cs).reverse, 0) := by
    rw [stripBrackets]
    intro rest hrest
    refine h ⟨rest.reverse, ?_⟩
    rw [← List.reverse_reverse (trimChars cs), hrest]
    simp
  unfold split
  rw [hstop]
  simp only [List.reverse_reverse]

/-- Pairs are taken off exactly if one is at the end of the trimmed text. -/
lemma split_pairs_eq_zero_iff : (split cs).2 = 0 ↔ ¬ ['[', ']'] <:+ trimChars cs := by
  constructor
  · rintro hzero ⟨rest, hrest⟩
    rw [← split_trimChars, ← hrest, split_append_pair] at hzero
    cases hzero
  · intro h
    rw [split_of_no_pair h]

lemma IsBase.split_eq (h : IsBase base) : split base = (base, 0) := by
  have htrim : trimChars base = base := h.trimmed.trimChars_eq
  rw [split_of_no_pair (by rw [htrim]; exact h.no_pair), htrim]

/-! ## The one decomposition -/

/-- The pairs behind a text are taken off, and those at its own end after them. -/
lemma Bracketed.split_left (h : Bracketed base n cs) :
    split cs = ((split base).1, (split base).2 + n) := by
  induction h with
  | base => rfl
  | pair _ hblanks ih =>
    rw [split_append_pair, split_append_blank hblanks, ih]
    rfl

lemma Bracketed.split_eq (h : Bracketed base n cs) (hbase : IsBase base) :
    split cs = (base, n) := by
  rw [h.split_left, hbase.split_eq, Nat.zero_add]

/-- What is split off makes up the trimmed text.  The induction is on its length, which each pair
makes smaller. -/
lemma bracketed_split (cs : List Char) :
    Bracketed (split cs).1 (split cs).2 (trimChars cs) ∧ IsBase (split cs).1 := by
  induction hlength : (trimChars cs).length using Nat.strong_induction_on generalizing cs with
  | _ length ih =>
    subst hlength
    by_cases hpair : ['[', ']'] <:+ trimChars cs
    · obtain ⟨rest, hrest⟩ := hpair
      have hhead : ∀ c ∈ rest.head?, isBlank c = false := by
        intro c hc
        apply (trimmed_trimChars cs).head
        rw [← hrest, List.head?_append, Option.mem_def.mp hc]
        rfl
      obtain ⟨blanks, hblanks, htail⟩ := eq_trimChars_append hhead
      have hsplit : split cs = ((split rest).1, (split rest).2 + 1) := by
        rw [← split_trimChars, ← hrest, split_append_pair]
      have hshorter : (trimChars rest).length < (trimChars cs).length := by
        have hcut := congrArg List.length htail
        have hwhole := congrArg List.length hrest
        simp only [List.length_append, List.length_cons, List.length_nil] at hcut hwhole
        omega
      obtain ⟨hbracketed, hbase⟩ := ih _ hshorter rest rfl
      rw [hsplit]
      refine ⟨?_, hbase⟩
      have hmore := hbracketed.pair hblanks
      rwa [← htail, hrest] at hmore
    · rw [split_of_no_pair hpair]
      exact ⟨.base, trimmed_trimChars cs, hpair⟩

/-- A text is split into the base and the number of pairs that make it up when it is trimmed. -/
lemma split_eq_iff :
    split cs = (base, n) ↔ Bracketed base n (trimChars cs) ∧ IsBase base := by
  constructor
  · intro h
    have hparts := bracketed_split cs
    rwa [h] at hparts
  · rintro ⟨hbracketed, hbase⟩
    rw [← split_trimChars, hbracketed.split_eq hbase]

end RuleMetrics.TypeUsage
