/-!
# Cutting texts

A text is cut at the first occurrence of a character, or at every occurrence.  Cutting at every
occurrence undoes joining: a text with `n` delimiters has `n + 1` pieces, empty ones included.
-/

namespace RuleMetrics.Text

/-- The characters before and after the first `d`. -/
def cut (d : Char) : List Char → Option (List Char × List Char)
  | [] => none
  | c :: cs =>
    if c = d then some ([], cs)
    else (cut d cs).map fun parts => (c :: parts.1, parts.2)

/-- What stands after the cut is shorter than the text. -/
theorem length_lt_of_cut {d : Char} {cs before after : List Char}
    (h : cut d cs = some (before, after)) : after.length < cs.length := by
  induction cs generalizing before after with
  | nil => simp [cut] at h
  | cons c cs ih =>
    by_cases hc : c = d
    · simp only [cut, if_pos hc, Option.some.injEq, Prod.mk.injEq] at h
      simp [← h.2]
    · simp only [cut, if_neg hc, Option.map_eq_some_iff] at h
      obtain ⟨⟨b, a⟩, hcut, heq⟩ := h
      have := ih hcut
      simp only [Prod.mk.injEq] at heq
      rw [← heq.2]
      simp only [List.length_cons]
      omega

/-- All pieces between the occurrences of `d`, in order. -/
def pieces (d : Char) : List Char → List (List Char)
  | [] => [[]]
  | c :: cs =>
    if c = d then [] :: pieces d cs
    else
      match pieces d cs with
      | [] => [[c]]
      | piece :: rest => (c :: piece) :: rest

/-- All pieces of a text between the occurrences of `d`. -/
def piecesOf (d : Char) (s : String) : List String :=
  (pieces d s.toList).map String.ofList

/-- The pieces one after the other, with `separator` between neighbours. -/
def join (separator : String) (texts : List String) : String :=
  separator.intercalate texts

end RuleMetrics.Text
