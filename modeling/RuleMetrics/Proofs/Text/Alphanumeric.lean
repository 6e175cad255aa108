import Mathlib.Tactic.Common
import RuleMetrics.Text.Alphanumeric
import RuleMetrics.Text.Blank

/-!
# Kinds of characters

The lists of code points behind the character properties are long, so what is said about all
characters of a property is decided on the lists, range by range: two properties that have no range
in common have no character in common (`CodeRange.covers_eq_false`).
-/

namespace RuleMetrics.Text

variable {c : Char}

/-- A character of one list of ranges is in no list that is apart from it. -/
lemma CodeRange.covers_eq_false (ranges others : List CodeRange)
    (hapart : ∀ r ∈ ranges, ∀ o ∈ others, r.2 < o.1 ∨ o.2 < r.1) (hc : covers ranges c = true) :
    covers others c = false := by
  unfold covers at hc ⊢
  obtain ⟨r, hr, hin⟩ := List.any_eq_true.mp hc
  rw [Bool.and_eq_true, decide_eq_true_eq, decide_eq_true_eq] at hin
  rw [List.any_eq_false]
  intro o ho hout
  rw [Bool.and_eq_true, decide_eq_true_eq, decide_eq_true_eq] at hout
  have := hapart r hr o ho
  omega

/-- No letter or digit is blank. -/
lemma isBlank_eq_false_of_isAlphanumeric (hc : isAlphanumeric c = true) : isBlank c = false := by
  refine CodeRange.covers_eq_false alphanumericRanges blankRanges ?_ hc
  decide +kernel

lemma isAlphanumeric_of_isDigit (hc : c.isDigit = true) : isAlphanumeric c = true := by
  have hrange : ((0x30, 0x39) : CodeRange) ∈ alphanumericRanges := List.mem_cons_self
  refine List.any_eq_true.mpr ⟨_, hrange, ?_⟩
  unfold Char.isDigit at hc
  rw [Bool.and_eq_true, decide_eq_true_eq, decide_eq_true_eq] at hc
  rw [Bool.and_eq_true, decide_eq_true_eq, decide_eq_true_eq]
  exact hc

end RuleMetrics.Text
