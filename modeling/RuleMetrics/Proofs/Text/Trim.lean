import Mathlib.Data.List.DropRight
import Mathlib.Tactic.Common
import RuleMetrics.Text.Blank

/-!
# Trimming texts

Trimming cuts a text into blanks, a middle part and blanks again.  `Trimmed` says what makes the
middle part one: it has no blank at either end.  `trimmed_trimChars` and `eq_append_trimChars` say
that every text is cut in this way.  Blanks that a writer puts before or behind a text are lost on
the reader (`trimChars_blank_append`, `trimChars_append_blank`), and a trimmed text stays as it is
(`Trimmed.trimChars_eq`).
-/

namespace RuleMetrics.Text

variable {c : Char} {cs ds lead tail : List Char}

/-- No blank stands at either end of a text. -/
structure Trimmed (cs : List Char) : Prop where
  head : ∀ c ∈ cs.head?, isBlank c = false
  last : ∀ c ∈ cs.getLast?, isBlank c = false

/-- A text without blanks has none at its ends. -/
lemma Trimmed.of_forall (h : ∀ c ∈ cs, isBlank c = false) : Trimmed cs :=
  ⟨fun c hc => h c (List.mem_of_mem_head? hc), fun c hc => h c (List.mem_of_getLast? hc)⟩

lemma allBlank_iff : allBlank cs = true ↔ ∀ c ∈ cs, isBlank c = true := by
  simp [allBlank]

/-! ## Blanks at one end -/

lemma trimStartChars_blank_append (hlead : allBlank lead = true) :
    trimStartChars (lead ++ cs) = trimStartChars cs := by
  rw [allBlank_iff] at hlead
  exact List.dropWhile_append_of_pos hlead

lemma trimEndChars_append_blank (htail : allBlank tail = true) :
    trimEndChars (cs ++ tail) = trimEndChars cs := by
  rw [allBlank_iff] at htail
  unfold trimEndChars
  rw [List.reverse_append, List.dropWhile_append_of_pos]
  intro c hc
  exact htail c (List.mem_reverse.mp hc)

lemma trimStartChars_eq_self (hhead : ∀ c ∈ cs.head?, isBlank c = false) :
    trimStartChars cs = cs := by
  cases cs with
  | nil => rfl
  | cons c cs => simp [trimStartChars, hhead c rfl]

lemma trimEndChars_eq_self (hlast : ∀ c ∈ cs.getLast?, isBlank c = false) :
    trimEndChars cs = cs := by
  have hreverse : trimStartChars cs.reverse = cs.reverse := by
    apply trimStartChars_eq_self
    simpa using hlast
  unfold trimEndChars
  unfold trimStartChars at hreverse
  rw [hreverse, List.reverse_reverse]

/-- What stands before a character that is not blank is out of reach of the trimming at the end. -/
lemma trimEndChars_append_cons (cs : List Char) (hc : isBlank c = false) :
    trimEndChars (cs ++ c :: ds) = cs ++ c :: trimEndChars ds := by
  have hstop : ∀ rest : List Char, (c :: rest).dropWhile isBlank = c :: rest := by
    simp [hc]
  unfold trimEndChars
  rw [List.reverse_append, List.reverse_cons, List.append_assoc, List.dropWhile_append]
  split
  · next hblank =>
    rw [List.isEmpty_iff] at hblank
    simp [hstop, hblank]
  · simp

/-! ## Blanks at both ends -/

lemma Trimmed.trimChars_eq (h : Trimmed cs) : trimChars cs = cs := by
  unfold trimChars
  rw [trimStartChars_eq_self h.head, trimEndChars_eq_self h.last]

lemma trimChars_blank_append (hlead : allBlank lead = true) :
    trimChars (lead ++ cs) = trimChars cs := by
  unfold trimChars
  rw [trimStartChars_blank_append hlead]

lemma trimStartChars_eq_nil_iff : trimStartChars cs = [] ↔ allBlank cs = true := by
  rw [allBlank_iff]
  exact List.dropWhile_eq_nil_iff

/-- Trimming at the start leaves blanks, or a text whose first character is not blank. -/
lemma head_trimStartChars (cs : List Char) :
    ∀ c ∈ (trimStartChars cs).head?, isBlank c = false := by
  intro c hc
  have h := List.head?_dropWhile_not isBlank cs
  unfold trimStartChars at hc
  rw [Option.mem_def] at hc
  rw [hc] at h
  exact h

lemma trimChars_append_blank (htail : allBlank tail = true) :
    trimChars (cs ++ tail) = trimChars cs := by
  by_cases hblank : allBlank cs = true
  · have hall : allBlank (cs ++ tail) = true := by
      simp only [allBlank, List.all_append, Bool.and_eq_true]
      exact ⟨hblank, htail⟩
    unfold trimChars
    rw [trimStartChars_eq_nil_iff.mpr hall, trimStartChars_eq_nil_iff.mpr hblank]
  · have hstart : trimStartChars (cs ++ tail) = trimStartChars cs ++ tail := by
      unfold trimStartChars
      rw [List.dropWhile_append, if_neg]
      intro hempty
      exact hblank (trimStartChars_eq_nil_iff.mp (List.isEmpty_iff.mp hempty))
    unfold trimChars
    rw [hstart, trimEndChars_append_blank htail]

/-- Trimming at the end takes blanks away. -/
lemma eq_append_trimEndChars (cs : List Char) :
    ∃ tail, allBlank tail = true ∧ cs = trimEndChars cs ++ tail := by
  refine ⟨(cs.reverse.takeWhile isBlank).reverse, ?_, ?_⟩
  · rw [allBlank_iff]
    intro c hc
    exact List.mem_takeWhile_imp (List.mem_reverse.mp hc)
  · have hreverse : cs.reverse.takeWhile isBlank ++ cs.reverse.dropWhile isBlank = cs.reverse :=
      List.takeWhile_append_dropWhile
    have h := congrArg List.reverse hreverse
    rw [List.reverse_append, List.reverse_reverse] at h
    exact h.symm

/-- Trimming at the start takes blanks away. -/
lemma eq_append_trimStartChars (cs : List Char) :
    ∃ lead, allBlank lead = true ∧ cs = lead ++ trimStartChars cs :=
  ⟨cs.takeWhile isBlank, allBlank_iff.mpr fun _ hc => List.mem_takeWhile_imp hc,
    List.takeWhile_append_dropWhile.symm⟩

/-- Every text is its trimmed middle with blanks on both sides. -/
lemma eq_append_trimChars (cs : List Char) :
    ∃ lead tail, allBlank lead = true ∧ allBlank tail = true ∧
      cs = lead ++ trimChars cs ++ tail := by
  obtain ⟨lead, hlead, hstart⟩ := eq_append_trimStartChars cs
  obtain ⟨tail, htail, hend⟩ := eq_append_trimEndChars (trimStartChars cs)
  refine ⟨lead, tail, hlead, htail, ?_⟩
  calc
    cs = lead ++ trimStartChars cs := hstart
    _ = lead ++ (trimEndChars (trimStartChars cs) ++ tail) := by rw [← hend]
    _ = lead ++ trimChars cs ++ tail := by rw [List.append_assoc, trimChars]

/-- A text that does not start with a blank is its middle with blanks behind it. -/
lemma eq_trimChars_append (hhead : ∀ c ∈ cs.head?, isBlank c = false) :
    ∃ tail, allBlank tail = true ∧ cs = trimChars cs ++ tail := by
  obtain ⟨tail, htail, hend⟩ := eq_append_trimEndChars cs
  refine ⟨tail, htail, ?_⟩
  rwa [trimChars, trimStartChars_eq_self hhead]

/-- What stands up to a character that is not blank is kept, if it does not start with a blank. -/
lemma trimChars_append_cons (hhead : ∀ x ∈ cs.head?, isBlank x = false) (hc : isBlank c = false) :
    trimChars (cs ++ c :: ds) = cs ++ c :: trimEndChars ds := by
  have hstart : trimStartChars (cs ++ c :: ds) = cs ++ c :: ds := by
    apply trimStartChars_eq_self
    intro x hx
    rw [List.head?_append, List.head?_cons, Option.mem_def, Option.or_eq_some_iff] at hx
    rcases hx with hx | ⟨-, hx⟩
    · exact hhead x hx
    · cases hx
      exact hc
  rw [trimChars, hstart, trimEndChars_append_cons cs hc]

/-- What trimming leaves is trimmed. -/
lemma trimmed_trimChars (cs : List Char) : Trimmed (trimChars cs) where
  head := by
    intro c hc
    obtain ⟨tail, -, hend⟩ := eq_append_trimEndChars (trimStartChars cs)
    apply head_trimStartChars cs
    rw [hend]
    exact List.head?_append_of_ne_nil _ (List.ne_nil_of_mem (List.mem_of_mem_head? hc)) ▸ hc
  last := by
    intro c hc
    apply head_trimStartChars (trimStartChars cs).reverse
    unfold trimChars trimEndChars at hc
    rwa [List.getLast?_reverse] at hc

lemma trimChars_trimChars (cs : List Char) : trimChars (trimChars cs) = trimChars cs :=
  (trimmed_trimChars cs).trimChars_eq

lemma trimChars_eq_nil_iff : trimChars cs = [] ↔ allBlank cs = true := by
  constructor
  · intro hnil
    obtain ⟨lead, tail, hlead, htail, hcs⟩ := eq_append_trimChars cs
    rw [hcs, hnil]
    simp only [allBlank, List.append_nil, List.all_append, Bool.and_eq_true]
    exact ⟨hlead, htail⟩
  · intro hblank
    unfold trimChars
    rw [trimStartChars_eq_nil_iff.mpr hblank]
    rfl

/-- A character of a text is blank or stands in its middle. -/
lemma isBlank_or_mem_trimChars (h : c ∈ cs) : isBlank c = true ∨ c ∈ trimChars cs := by
  obtain ⟨lead, tail, hlead, htail, hcs⟩ := eq_append_trimChars cs
  rw [allBlank_iff] at hlead htail
  rw [hcs] at h
  rcases List.mem_append.mp h with h | h
  · rcases List.mem_append.mp h with h | h
    · exact Or.inl (hlead c h)
    · exact Or.inr h
  · exact Or.inl (htail c h)

/-- A text trimmed at its end only is its middle after some blanks. -/
lemma trimEndChars_eq_append_trimChars (cs : List Char) :
    ∃ lead, allBlank lead = true ∧ trimEndChars cs = lead ++ trimChars cs := by
  obtain ⟨lead, hlead, hstart⟩ := eq_append_trimStartChars cs
  cases hmiddle : trimStartChars cs with
  | nil =>
    have hblank := trimStartChars_eq_nil_iff.mp hmiddle
    refine ⟨[], rfl, ?_⟩
    have hnil : trimEndChars ([] ++ cs) = [] := trimEndChars_append_blank hblank
    rw [trimChars_eq_nil_iff.mpr hblank]
    exact hnil
  | cons c rest =>
    have hc : isBlank c = false := head_trimStartChars cs c (by simp [hmiddle])
    refine ⟨lead, hlead, ?_⟩
    have hwhole : trimEndChars cs = lead ++ c :: trimEndChars rest := by
      conv_lhs => rw [hstart, hmiddle]
      exact trimEndChars_append_cons lead hc
    have hafter : trimEndChars (c :: rest) = c :: trimEndChars rest :=
      trimEndChars_append_cons [] hc
    rw [hwhole, trimChars, hmiddle, hafter]

/-! ## Strings -/

lemma trimmed_trim (s : String) : Trimmed (trim s).toList := by
  rw [trim, String.toList_ofList]
  exact trimmed_trimChars s.toList

lemma trim_eq_self {s : String} (h : Trimmed s.toList) : trim s = s := by
  rw [trim, h.trimChars_eq, String.ofList_toList]

/-- Trimming makes a text shorter unless there is nothing to trim. -/
lemma trim_eq_self_of_length_le {s : String} (h : s.utf8ByteSize ≤ (trim s).utf8ByteSize) :
    trim s = s := by
  obtain ⟨lead, tail, -, -, hcs⟩ := eq_append_trimChars s.toList
  have hs : s = String.ofList lead ++ trim s ++ String.ofList tail := by
    rw [trim, ← String.ofList_append, ← String.ofList_append, ← hcs, String.ofList_toList]
  have hsize := congrArg String.utf8ByteSize hs
  rw [String.utf8ByteSize_append, String.utf8ByteSize_append] at hsize
  have hlead : String.ofList lead = "" := String.utf8ByteSize_eq_zero_iff.mp (by omega)
  have htail : String.ofList tail = "" := String.utf8ByteSize_eq_zero_iff.mp (by omega)
  rw [hlead, htail, String.empty_append, String.append_empty] at hs
  exact hs.symm

lemma isBlankText_eq_false {s : String} (hne : s.toList ≠ [])
    (h : ∀ c ∈ s.toList, isBlank c = false) : isBlankText s = false := by
  obtain ⟨c, hc⟩ := List.exists_mem_of_ne_nil _ hne
  rw [isBlankText, Bool.eq_false_iff, Ne, allBlank_iff]
  intro hblank
  have hboth := h c hc
  rw [hblank c hc] at hboth
  cases hboth

end RuleMetrics.Text
