import Mathlib.Data.List.Basic
import Mathlib.Data.List.Induction
import RuleMetrics.Proofs.Rule.Statements

/-!
# Measuring constructors

Measuring gives each constructor its place in the file as a handle.  So the point recorded at a
place (`points_measureAll`) and the label stored for it (`label?_measureAll`) are those of the
constructor at that place, also where two constructors look the same.
-/

namespace RuleMetrics.ConstructorSize

variable (ignored : List MethodSignature)

/-- How a constructor is shown. -/
def shown (constructor : SyntaxTree) : ScoreLabel :=
  ⟨constructorLabel constructor, constructor.label.row + 1⟩

lemma measureAll_concat (found : List SyntaxTree) (constructor : SyntaxTree) :
    measureAll ignored (found ++ [constructor]) =
      (measureAll ignored found).add (measureAll ignored found).points.length
        (Decimal.floatOfNat (constructorScore ignored constructor)) (shown constructor) := by
  unfold measureAll
  rw [List.foldl_append]
  rfl

lemma points_measureAll (found : List SyntaxTree) :
    (measureAll ignored found).points =
      found.zipIdx.map fun e =>
        ⟨e.2, Decimal.floatOfNat (constructorScore ignored e.1), e.2⟩ := by
  induction found using List.reverseRecOn with
  | nil => rfl
  | append_singleton found constructor ih =>
    have hlength : (measureAll ignored found).points.length = found.length := by
      rw [ih, List.length_map, List.length_zipIdx]
    rw [measureAll_concat, List.zipIdx_append, List.map_append, ← ih, hlength]
    simp [Measurements.add, Measurements.addPoint, record, hlength]

lemma label?_measureAll (found : List SyntaxTree) (place : Nat) :
    (measureAll ignored found).label? place = found[place]?.map shown := by
  induction found using List.reverseRecOn with
  | nil => rfl
  | append_singleton found constructor ih =>
    have hlength : (measureAll ignored found).points.length = found.length := by
      rw [points_measureAll, List.length_map, List.length_zipIdx]
    have hlookup : (measureAll ignored (found ++ [constructor])).label? place =
        if place = found.length then some (shown constructor)
        else (measureAll ignored found).label? place := by
      rw [measureAll_concat, hlength]
      unfold Measurements.label?
      by_cases hplace : place = found.length
      · simp [Measurements.add, hplace]
      · have hother : (place == found.length) = false := by
          simpa using hplace
        simp [Measurements.add, Measurements.addPoint, List.lookup_cons, hother, hplace]
    rw [hlookup, ih]
    rcases Nat.lt_trichotomy place found.length with hlt | heq | hgt
    · rw [if_neg (Nat.ne_of_lt hlt), List.getElem?_append_left hlt]
    · rw [if_pos heq, heq, List.getElem?_concat_length]
      rfl
    · rw [if_neg (Nat.ne_of_gt hgt), List.getElem?_eq_none (by omega),
        List.getElem?_eq_none (by simp; omega)]

end RuleMetrics.ConstructorSize
