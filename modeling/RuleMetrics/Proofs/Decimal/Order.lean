import RuleMetrics.Proofs.Decimal.Count

/-!
# The order of doubles

Doubles are compared by their bits.  Finite doubles are numbers, and comparing them is comparing
these (`atMost_iff_le`); the two zeros are the same number.  The order that scores are ranked in
tells the zeros apart and agrees with the numbers otherwise (`numericKey_le_of_totalKey_le`).

A score takes part in selection if it is a number that is not negative (`usable_iff`).
-/

namespace RuleMetrics.Decimal

variable {x y z : Float} {a b : ℚ}

/-! ## Comparisons -/

lemma atMost_eq_true_iff :
    atMost x y = true ↔ isNaN x = false ∧ isNaN y = false ∧ numericKey x ≤ numericKey y := by
  unfold atMost
  rw [Bool.and_eq_true, Bool.and_eq_true, Bool.not_eq_true', Bool.not_eq_true',
    decide_eq_true_iff, and_assoc]

lemma below_eq_true_iff :
    below x y = true ↔ isNaN x = false ∧ isNaN y = false ∧ numericKey x < numericKey y := by
  unfold below
  rw [Bool.and_eq_true, Bool.and_eq_true, Bool.not_eq_true', Bool.not_eq_true',
    decide_eq_true_iff, and_assoc]

lemma atMost_trans (hxy : atMost x y = true) (hyz : atMost y z = true) : atMost x z = true := by
  rw [atMost_eq_true_iff] at hxy hyz ⊢
  exact ⟨hxy.1, hyz.2.1, hxy.2.2.trans hyz.2.2⟩

lemma below_of_below_of_atMost (hxy : below x y = true) (hyz : atMost y z = true) :
    below x z = true := by
  rw [below_eq_true_iff] at hxy ⊢
  rw [atMost_eq_true_iff] at hyz
  exact ⟨hxy.1, hyz.2.1, hxy.2.2.trans_le hyz.2.2⟩

/-- What is at most as high in the ranking of scores is no greater number. -/
lemma numericKey_le_of_totalKey_le (h : totalKey x ≤ totalKey y) :
    numericKey x ≤ numericKey y := by
  unfold totalKey at h
  unfold numericKey
  dsimp only at h ⊢
  cases hx : signBit x.toBits with
  | false =>
    cases hy : signBit y.toBits with
    | false => simpa [hx, hy] using h
    | true =>
      simp only [hx, hy, Bool.false_eq_true, if_true, if_false] at h ⊢
      omega
  | true =>
    cases hy : signBit y.toBits with
    | false =>
      simp only [hx, hy, Bool.false_eq_true, if_true, if_false] at h ⊢
      omega
    | true =>
      simp only [hx, hy, if_true] at h ⊢
      omega

/-! ## Doubles as numbers -/

lemma isFinite_of_number? (h : (Double.ofFloat x).number? = some a) : isFinite x = true := by
  cases hx : Double.ofFloat x with
  | nan =>
    rw [hx] at h
    cases h
  | infinite negative =>
    rw [hx] at h
    cases h
  | finite negative value =>
    have hlt : value.bits < 0x7FF0000000000000 := (Double.ofBits_eq_finite hx).1.bits_lt
    apply decide_eq_true
    rw [(place_of_finite hx).2]
    exact hlt

lemma isNaN_of_number? (h : (Double.ofFloat x).number? = some a) : isNaN x = false := by
  have hlt := of_decide_eq_true (isFinite_of_number? h)
  exact decide_eq_false (by omega)

/-- Doubles that are numbers are in the order of the numbers. -/
lemma numericKey_le_iff (hx : (Double.ofFloat x).number? = some a)
    (hy : (Double.ofFloat y).number? = some b) : numericKey x ≤ numericKey y ↔ a ≤ b := by
  obtain ⟨negative, v, hv⟩ := exists_finite_of_isFinite (isFinite_of_number? hx)
  obtain ⟨negative', w, hw⟩ := exists_finite_of_isFinite (isFinite_of_number? hy)
  have hvc : v.Canonical := (Double.ofBits_eq_finite hv).1
  have hwc : w.Canonical := (Double.ofBits_eq_finite hw).1
  have hvzero := hvc.bits_pos_iff
  have hwzero := hwc.bits_pos_iff
  have hvnonneg := v.value_nonneg
  have hwnonneg := w.value_nonneg
  rw [hv] at hx
  rw [hw] at hy
  obtain rfl := Option.some.inj hx
  obtain rfl := Option.some.inj hy
  rw [(numericKey_of_finite hv).2, (numericKey_of_finite hw).2]
  cases negative with
  | false =>
    cases negative' with
    | false => simpa using hvc.bits_le_bits_iff hwc
    | true =>
      -- Only zero is not above a number of negative sign, and that only if it is zero too.
      have hkeys : (v.bits : ℤ) ≤ -w.bits ↔ ¬ 0 < v.bits ∧ ¬ 0 < w.bits := by omega
      have hvalues : v.value ≤ -w.value ↔ ¬ 0 < v.value ∧ ¬ 0 < w.value := by
        rw [not_lt, not_lt]
        exact ⟨fun h => ⟨by linarith, by linarith⟩, fun h => by linarith⟩
      simp only [Bool.false_eq_true, if_false, if_true]
      rw [hkeys, hvalues, hvzero, hwzero]
  | true =>
    cases negative' with
    | false =>
      have hkeys : -(v.bits : ℤ) ≤ w.bits := by omega
      have hvalues : -v.value ≤ w.value := by linarith
      simp [hkeys, hvalues]
    | true => simpa using hwc.bits_le_bits_iff hvc

/-- Comparing doubles that are numbers is comparing the numbers. -/
lemma atMost_iff_le (hx : (Double.ofFloat x).number? = some a)
    (hy : (Double.ofFloat y).number? = some b) : atMost x y = true ↔ a ≤ b := by
  rw [atMost_eq_true_iff, numericKey_le_iff hx hy]
  exact ⟨fun h => h.2.2, fun h => ⟨isNaN_of_number? hx, isNaN_of_number? hy, h⟩⟩

/-- A score takes part in selection if it is a number that is not negative. -/
lemma usable_iff :
    ScoreNumber.usable x = true ↔ ∃ a, (Double.ofFloat x).number? = some a ∧ 0 ≤ a := by
  obtain ⟨zero, hzero, hvalue⟩ := exists_value_floatOfNat (show 0 < 2 ^ 53 by norm_num)
  have hnumber : (Double.ofFloat (floatOfNat 0)).number? = some 0 := by
    rw [hzero]
    simpa [Double.number?] using hvalue
  have husable : ScoreNumber.usable x = (isFinite x && atMost (floatOfNat 0) x) := rfl
  rw [husable, Bool.and_eq_true]
  constructor
  · rintro ⟨hfinite, hnonneg⟩
    obtain ⟨a, ha, -⟩ := exists_number hfinite
    exact ⟨a, ha, (atMost_iff_le hnumber ha).mp hnonneg⟩
  · rintro ⟨a, ha, hnonneg⟩
    exact ⟨isFinite_of_number? ha, (atMost_iff_le hnumber ha).mpr hnonneg⟩

end RuleMetrics.Decimal
