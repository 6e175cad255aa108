import Mathlib.Algebra.Order.Field.Power
import Mathlib.Algebra.Order.Ring.Rat
import Mathlib.Tactic.FieldSimp
import Mathlib.Tactic.Linarith
import Mathlib.Tactic.Positivity
import Mathlib.Tactic.Ring
import RuleMetrics.Decimal.Shortest

/-!
# Decimals that read back

The comparisons of decimals with doubles are made between natural numbers, scaled by whatever
powers of ten and two they need.  Here they are comparisons of rational numbers
(`compareScaled_eq_lt_iff` and its companions), and the interval that `Binary.readsBack` tests is
one of rational numbers (`Binary.Rounds`).  The shortest decimal of a double lies in the interval
of the double, however the search for it goes (`Binary.rounds_shortest`).
-/

namespace RuleMetrics.Decimal

/-- The number that a decimal stands for. -/
def Scaled.value (d : Scaled) : ℚ :=
  d.digits * 10 ^ d.exponent

/-! ## Comparisons -/

/-- A power with an integer exponent, as a fraction of powers with natural exponents. -/
lemma zpow_eq_div (b : ℚ) (n : ℤ) : b ^ n = b ^ n.toNat / b ^ (-n).toNat := by
  rcases Int.le_total 0 n with hn | hn
  · have hneg : (-n).toNat = 0 := by omega
    rw [hneg, pow_zero, div_one, ← zpow_natCast, Int.toNat_of_nonneg hn]
  · have hpos : n.toNat = 0 := by omega
    have hcast : ((-n).toNat : ℤ) = -n := Int.toNat_of_nonneg (by omega)
    rw [hpos, pow_zero, one_div, ← zpow_natCast, hcast, zpow_neg, inv_inv]

/-- Scaled by the denominators of both powers, the two sides of a comparison are natural numbers. -/
lemma scale_comparison (a n : ℕ) (i j : ℤ) :
    ((a * Nat.pow 10 i.toNat * Nat.pow 2 (-j).toNat : ℕ) : ℚ) =
        a * 10 ^ i * (10 ^ (-i).toNat * 2 ^ (-j).toNat) ∧
      ((n * Nat.pow 2 j.toNat * Nat.pow 10 (-i).toNat : ℕ) : ℚ) =
        n * 2 ^ j * (10 ^ (-i).toNat * 2 ^ (-j).toNat) := by
  have hten := zpow_eq_div 10 i
  have htwo := zpow_eq_div 2 j
  constructor
  · rw [hten]
    simp only [Nat.pow_eq]
    push_cast
    field_simp
  · rw [htwo]
    simp only [Nat.pow_eq]
    push_cast
    field_simp

lemma compareScaled_eq_lt_iff {a n : ℕ} {i j : ℤ} :
    compareScaled a i n j = .lt ↔ (a : ℚ) * 10 ^ i < n * 2 ^ j := by
  obtain ⟨hleft, hright⟩ := scale_comparison a n i j
  unfold compareScaled
  rw [Nat.compare_eq_lt, ← Nat.cast_lt (α := ℚ), hleft, hright]
  exact mul_lt_mul_iff_of_pos_right (by positivity)

lemma compareScaled_eq_gt_iff {a n : ℕ} {i j : ℤ} :
    compareScaled a i n j = .gt ↔ (n : ℚ) * 2 ^ j < a * 10 ^ i := by
  obtain ⟨hleft, hright⟩ := scale_comparison a n i j
  unfold compareScaled
  rw [Nat.compare_eq_gt, ← Nat.cast_lt (α := ℚ), hleft, hright]
  exact mul_lt_mul_iff_of_pos_right (by positivity)

lemma compareScaled_eq_eq_iff {a n : ℕ} {i j : ℤ} :
    compareScaled a i n j = .eq ↔ (a : ℚ) * 10 ^ i = n * 2 ^ j := by
  obtain ⟨hleft, hright⟩ := scale_comparison a n i j
  have hscale : (10 ^ (-i).toNat * 2 ^ (-j).toNat : ℚ) ≠ 0 := by positivity
  unfold compareScaled
  rw [Nat.compare_eq_eq, ← Nat.cast_inj (R := ℚ), hleft, hright]
  exact mul_left_inj' hscale

namespace Binary

variable {x : Binary} {d : Scaled} {v : ℚ}

/-! ## Intervals -/

/-- The lower end of the numbers that round to a double, in quarters of the gap above it. -/
def low (x : Binary) : ℕ :=
  if x.narrowBelow then 4 * x.mantissa - 1 else 4 * x.mantissa - 2

/-- The upper end. -/
def high (x : Binary) : ℕ :=
  4 * x.mantissa + 2

/-- A number rounds to a double: it lies between the middles of the gaps on both sides, or on one
of them if the mantissa is even. -/
structure Rounds (x : Binary) (v : ℚ) : Prop where
  above : x.low * 2 ^ (x.exponent - 2) < v ∨
    x.mantissa % 2 = 0 ∧ v = x.low * 2 ^ (x.exponent - 2)
  below : v < x.high * 2 ^ (x.exponent - 2) ∨
    x.mantissa % 2 = 0 ∧ v = x.high * 2 ^ (x.exponent - 2)

lemma Rounds.low_le (h : x.Rounds v) : x.low * 2 ^ (x.exponent - 2) ≤ v := by
  rcases h.above with hlt | ⟨-, heq⟩
  · exact hlt.le
  · exact heq.ge

lemma Rounds.le_high (h : x.Rounds v) : v ≤ x.high * 2 ^ (x.exponent - 2) := by
  rcases h.below with hlt | ⟨-, heq⟩
  · exact hlt.le
  · exact heq.le

lemma readsBack_iff : x.readsBack d = true ↔ x.Rounds d.value := by
  have habove : (compareScaled d.digits d.exponent x.low (x.exponent - 2) == .gt ||
      (x.mantissa % 2 == 0 &&
        compareScaled d.digits d.exponent x.low (x.exponent - 2) == .eq)) = true ↔
      (x.low * 2 ^ (x.exponent - 2) < d.value ∨
        x.mantissa % 2 = 0 ∧ d.value = x.low * 2 ^ (x.exponent - 2)) := by
    simp only [Bool.or_eq_true, Bool.and_eq_true, beq_iff_eq, compareScaled_eq_gt_iff,
      compareScaled_eq_eq_iff, Scaled.value]
  have hbelow : (compareScaled d.digits d.exponent x.high (x.exponent - 2) == .lt ||
      (x.mantissa % 2 == 0 &&
        compareScaled d.digits d.exponent x.high (x.exponent - 2) == .eq)) = true ↔
      (d.value < x.high * 2 ^ (x.exponent - 2) ∨
        x.mantissa % 2 = 0 ∧ d.value = x.high * 2 ^ (x.exponent - 2)) := by
    simp only [Bool.or_eq_true, Bool.and_eq_true, beq_iff_eq, compareScaled_eq_lt_iff,
      compareScaled_eq_eq_iff, Scaled.value]
  constructor
  · intro h
    obtain ⟨hlow, hhigh⟩ := Bool.and_eq_true_iff.mp h
    exact ⟨habove.mp hlow, hbelow.mp hhigh⟩
  · intro h
    exact Bool.and_eq_true_iff.mpr ⟨habove.mpr h.above, hbelow.mpr h.below⟩

/-! ## The shortest decimal -/

lemma readsBack_of_onGrid {tie : Tie} {grid : ℤ} (h : x.onGrid tie grid = some d) :
    x.readsBack d = true := by
  unfold onGrid at h
  dsimp only at h
  split at h
  · cases h
  · next hlower _ =>
    cases h
    exact hlower
  · next _ hupper =>
    cases h
    exact hupper
  · next hlower hupper =>
    split at h
    · cases h
      exact hupper
    · cases h
      exact hlower
    · split at h
      · cases h
        exact hupper
      · split at h
        · cases h
          exact hlower
        · cases h
          exact hupper

/-- The number that a double without its sign stands for. -/
def value (x : Binary) : ℚ :=
  x.mantissa * 2 ^ x.exponent

/-- Every double is a decimal. -/
lemma value_exact (x : Binary) :
    Scaled.value ⟨x.mantissa * Nat.pow 2 x.exponent.toNat * Nat.pow 5 (-x.exponent).toNat,
      min x.exponent 0⟩ = x.value := by
  unfold Scaled.value value
  simp only [Nat.pow_eq]
  push_cast
  rw [zpow_eq_div 2 x.exponent]
  rcases Int.le_total 0 x.exponent with hsign | hsign
  · have hneg : (-x.exponent).toNat = 0 := by omega
    rw [min_eq_right hsign, hneg]
    simp
  · have hpos : x.exponent.toNat = 0 := by omega
    have hten : (10 : ℚ) ^ (-x.exponent).toNat =
        2 ^ (-x.exponent).toNat * 5 ^ (-x.exponent).toNat := by
      rw [← mul_pow]
      norm_num
    rw [min_eq_left hsign, zpow_eq_div 10 x.exponent, hpos, hten]
    field_simp

/-- A double rounds to itself. -/
lemma rounds_value (hx : 0 < x.mantissa) : x.Rounds x.value := by
  have hvalue : x.value = (4 * x.mantissa : ℕ) * 2 ^ (x.exponent - 2) := by
    unfold value
    rw [zpow_sub₀ (by norm_num : (2 : ℚ) ≠ 0)]
    push_cast
    ring
  have hgap : (0 : ℚ) < 2 ^ (x.exponent - 2) := by positivity
  have hlow : x.low < 4 * x.mantissa := by
    unfold low
    split <;> omega
  have hhigh : 4 * x.mantissa < x.high := by
    unfold high
    omega
  rw [hvalue]
  constructor
  · left
    exact mul_lt_mul_of_pos_right (by exact_mod_cast hlow) hgap
  · left
    exact mul_lt_mul_of_pos_right (by exact_mod_cast hhigh) hgap

/-- The shortest decimal of a double rounds to the double, whatever grids are searched. -/
lemma rounds_onFirst (tie : Tie) (grids : List ℤ) (hx : 0 < x.mantissa) :
    x.Rounds (x.onFirst tie grids).value := by
  unfold onFirst
  cases hfind : grids.findSome? (x.onGrid tie) with
  | some d =>
    obtain ⟨grid, -, hgrid⟩ := List.exists_of_findSome?_eq_some hfind
    exact readsBack_iff.mp (readsBack_of_onGrid hgrid)
  | none =>
    simp only [value_exact]
    exact rounds_value hx

lemma rounds_shortest (tie : Tie) (hx : 0 < x.mantissa) : x.Rounds (x.shortest tie).value :=
  rounds_onFirst tie grids hx

end Binary

end RuleMetrics.Decimal
