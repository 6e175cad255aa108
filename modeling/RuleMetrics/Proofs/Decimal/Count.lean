import RuleMetrics.Proofs.Decimal.Bits
import RuleMetrics.Proofs.Decimal.Interval
import RuleMetrics.Score.Number

/-!
# Counts as doubles

Scores are counts that are held as doubles.  Below `2 ^ 53` a double holds a count exactly
(`exists_value_floatOfNat`).  A threshold then compares with it as a number does
(`atMost_floatOfNat_iff`), it takes part in selection, and its text is the one of the count
(`scoreText_floatOfNat`).

Comparisons are made on bits, so that the numeric meaning of the order rests on one fact: doubles
are counted upwards by their bits (`Binary.Canonical.bits_le_bits_iff`).
-/

namespace RuleMetrics.Decimal

/-! ## The order of doubles -/

namespace Binary

variable {x y : Binary}

/-- The value in units of the smallest positive double. -/
def units (x : Binary) : ℕ :=
  x.mantissa * 2 ^ (x.exponent + 1074).toNat

lemma value_nonneg (x : Binary) : 0 ≤ x.value := by
  unfold value
  positivity

lemma Canonical.value_eq (hx : x.Canonical) : x.value = x.units * (2 : ℚ) ^ (-1074 : ℤ) := by
  have hexponent : x.exponent = ((x.exponent + 1074).toNat : ℤ) + -1074 := by
    have := hx.exponent_ge
    omega
  unfold value units
  conv_lhs => rw [hexponent]
  rw [zpow_add₀ two_ne_zero, zpow_natCast, Nat.cast_mul, Nat.cast_pow, Nat.cast_two, mul_assoc]

lemma Canonical.value_le_value_iff (hx : x.Canonical) (hy : y.Canonical) :
    x.value ≤ y.value ↔ x.units ≤ y.units := by
  rw [hx.value_eq, hy.value_eq, mul_le_mul_iff_of_pos_right (by positivity), Nat.cast_le]

/-- With a greater exponent, both the bits and the value are greater. -/
lemma Canonical.lt_of_exponent_lt (hx : x.Canonical) (hy : y.Canonical)
    (h : x.exponent < y.exponent) : x.bits < y.bits ∧ x.units < y.units := by
  have hxm : x.mantissa < 2 ^ 53 := hx.mantissa_lt
  have hxe : -1074 ≤ x.exponent := hx.exponent_ge
  have hym : 2 ^ 52 ≤ y.mantissa := hy.le_mantissa (by omega)
  have hplaces : (x.exponent + 1074).toNat + 1 ≤ (y.exponent + 1074).toNat := by
    omega
  constructor
  · unfold bits
    omega
  · calc x.units < 2 ^ 53 * 2 ^ (x.exponent + 1074).toNat :=
          Nat.mul_lt_mul_of_pos_right hxm (by positivity)
      _ = 2 ^ 52 * 2 ^ ((x.exponent + 1074).toNat + 1) := by ring
      _ ≤ y.mantissa * 2 ^ (y.exponent + 1074).toNat :=
          Nat.mul_le_mul hym (Nat.pow_le_pow_right (by norm_num) hplaces)

/-- The bits of doubles count them in the order of their values. -/
lemma Canonical.bits_le_bits_iff (hx : x.Canonical) (hy : y.Canonical) :
    x.bits ≤ y.bits ↔ x.value ≤ y.value := by
  rw [hx.value_le_value_iff hy]
  rcases lt_trichotomy x.exponent y.exponent with hlt | heq | hgt
  · obtain ⟨hbits, hunits⟩ := hx.lt_of_exponent_lt hy hlt
    exact iff_of_true hbits.le hunits.le
  · unfold bits units
    rw [heq, Nat.add_le_add_iff_left, Nat.mul_le_mul_right_iff (by positivity)]
  · obtain ⟨hbits, hunits⟩ := hy.lt_of_exponent_lt hx hgt
    exact iff_of_false hbits.not_ge hunits.not_ge

end Binary

/-! ## The place of a double among the others -/

section Place

variable {m : Float} {negative : Bool} {x : Binary}

lemma Binary.Canonical.bits_lt (hx : x.Canonical) : x.bits < 0x7FF0000000000000 := by
  have hmantissa : x.mantissa < 2 ^ 53 := hx.mantissa_lt
  have hexponent : x.exponent ≤ 971 := hx.exponent_le
  unfold Binary.bits
  omega

lemma place_of_finite (h : Double.ofFloat m = .finite negative x) :
    signBit m.toBits = negative ∧ magnitudeBits m.toBits = x.bits := by
  obtain ⟨hx, hbits⟩ := Double.ofBits_eq_finite h
  have hlt : x.bits < 0x7FF0000000000000 := hx.bits_lt
  rw [signBit_eq, magnitudeBits_eq, hbits]
  cases negative with
  | false =>
    rw [if_neg Bool.false_ne_true, zero_add]
    exact ⟨decide_eq_false (by omega), by omega⟩
  | true =>
    rw [if_pos rfl]
    exact ⟨decide_eq_true (by omega), by omega⟩

lemma numericKey_of_finite (h : Double.ofFloat m = .finite negative x) :
    isNaN m = false ∧ numericKey m = if negative then -(x.bits : ℤ) else x.bits := by
  have hlt : x.bits < 0x7FF0000000000000 := (Double.ofBits_eq_finite h).1.bits_lt
  obtain ⟨hsign, hmagnitude⟩ := place_of_finite h
  refine ⟨decide_eq_false (by omega), ?_⟩
  unfold numericKey
  rw [hsign, hmagnitude]

lemma numericKey_of_infinite (h : Double.ofFloat m = .infinite negative) :
    isNaN m = false ∧
      numericKey m = if negative then -0x7FF0000000000000 else 0x7FF0000000000000 := by
  unfold Double.ofFloat Double.ofBits at h
  dsimp only at h
  rw [toNat_exponentField, toNat_fractionField] at h
  split at h
  · split at h
    · cases h
      have hmagnitude : magnitudeBits m.toBits = 0x7FF0000000000000 := by
        rw [magnitudeBits_eq]
        omega
      refine ⟨decide_eq_false (by omega), ?_⟩
      unfold numericKey
      rw [hmagnitude]
      rfl
    · cases h
  · split at h
    · cases h
    · cases h

lemma isNaN_of_nan (h : Double.ofFloat m = .nan) : isNaN m = true := by
  unfold Double.ofFloat Double.ofBits at h
  dsimp only at h
  rw [toNat_exponentField, toNat_fractionField] at h
  apply decide_eq_true
  rw [magnitudeBits_eq]
  split at h
  · split at h
    · cases h
    · omega
  · split at h
    · cases h
    · cases h

/-- The number that a finite double is. -/
def Double.number? : Double → Option ℚ
  | finite negative x => some (if negative then -x.value else x.value)
  | _ => none

lemma Binary.Canonical.bits_pos_iff (hx : x.Canonical) : 0 < x.bits ↔ 0 < x.value := by
  have hzero : Binary.Canonical ⟨0, -1074, false⟩ := ⟨by simp, by simp, by simp, by simp, by simp⟩
  have hle := hx.bits_le_bits_iff hzero
  have hvalue : Binary.value ⟨0, -1074, false⟩ = 0 := by simp [Binary.value]
  have hbits : Binary.bits ⟨0, -1074, false⟩ = 0 := rfl
  rw [hvalue, hbits] at hle
  rw [← not_le, ← not_le, hle]

/-- The sign of a finite double is that of its place in the numeric order. -/
lemma exists_number (h : isFinite m = true) :
    ∃ q, (Double.ofFloat m).number? = some q ∧ (0 < q ↔ 0 < numericKey m) ∧
      (0 ≤ q ↔ 0 ≤ numericKey m) := by
  obtain ⟨negative, x, hx⟩ := exists_finite_of_isFinite h
  have hpos := (Double.ofBits_eq_finite hx).1.bits_pos_iff
  have hnonneg := x.value_nonneg
  refine ⟨if negative then -x.value else x.value, by rw [hx]; rfl, ?_⟩
  rw [(numericKey_of_finite hx).2]
  cases negative with
  | false => simp [← hpos, hnonneg]
  | true =>
    have hzero : x.value ≤ 0 ↔ x.bits ≤ 0 := by rw [← not_lt, ← not_lt, hpos]
    have hbits : ¬ (x.bits : ℤ) < 0 := by omega
    simp [hzero, hnonneg.not_gt, hbits]

/-- A finite double that is not below another has no lower place. -/
lemma numericKey_le_of_below {y : Float} (hm : isFinite m = true) (hy : isNaN y = false)
    (h : below m y = false) : numericKey y ≤ numericKey m := by
  have hnumber : isNaN m = false := by
    have hlt := of_decide_eq_true hm
    exact decide_eq_false (by omega)
  unfold below at h
  rw [hnumber, hy] at h
  simpa using h

end Place

/-! ## Counts -/

/-- An exponent beside a mantissa with all its digits makes up a double. -/
lemma exists_parts_ofBits {e m : ℕ} (he : e < 2046) (hlow : 2 ^ 52 ≤ m) (hhigh : m < 2 ^ 53) :
    ∃ x, Double.ofFloat (Float.ofBits (UInt64.ofNat (e * 2 ^ 52 + m))) = .finite false x ∧
      x.mantissa = m ∧ x.exponent = (e : ℤ) - 1074 := by
  have hlt : e * 2 ^ 52 + m < 2 ^ 64 := by
    omega
  have hbits : (UInt64.ofNat (e * 2 ^ 52 + m)).toNat = e * 2 ^ 52 + m :=
    UInt64.toNat_ofNat_of_lt' hlt
  have hexponent : (e * 2 ^ 52 + m) / 2 ^ 52 % 2 ^ 11 = e + 1 := by
    omega
  have hfraction : 2 ^ 52 + (e * 2 ^ 52 + m) % 2 ^ 52 = m := by
    omega
  have hsign : signBit (UInt64.ofNat (e * 2 ^ 52 + m)) = false := by
    rw [signBit_eq, hbits, decide_eq_false_iff_not]
    omega
  unfold Double.ofFloat
  rw [toBits_ofBits (by rw [hbits, hexponent]; omega)]
  unfold Double.ofBits
  dsimp only
  rw [toNat_exponentField, toNat_fractionField, hbits, hexponent, hsign, if_neg (by omega),
    if_neg (by omega)]
  refine ⟨_, rfl, hfraction, ?_⟩
  push_cast
  ring

variable {n : ℕ}

/-- Below `2 ^ 53` a double holds a count exactly. -/
lemma exists_value_floatOfNat (h : n < 2 ^ 53) :
    ∃ x, Double.ofFloat (floatOfNat n) = .finite false x ∧ x.value = n := by
  unfold floatOfNat
  split
  · next hzero =>
    refine ⟨⟨0, -1074, false⟩, ?_, by simp [Binary.value, hzero]⟩
    unfold Double.ofFloat
    rw [toBits_ofBits (by decide)]
    decide
  · next hpos =>
    rw [if_pos (show n < Nat.pow 2 53 from h)]
    have hplace : n.log2 ≤ 52 := Nat.lt_succ_iff.mp ((Nat.log2_lt hpos).mpr h)
    have hlow : 2 ^ 52 ≤ n * 2 ^ (52 - n.log2) := by
      calc 2 ^ 52 = 2 ^ n.log2 * 2 ^ (52 - n.log2) := by rw [← pow_add, Nat.add_sub_cancel' hplace]
        _ ≤ n * 2 ^ (52 - n.log2) := Nat.mul_le_mul_right _ (Nat.log2_self_le hpos)
    have hhigh : n * 2 ^ (52 - n.log2) < 2 ^ 53 := by
      calc n * 2 ^ (52 - n.log2) < 2 ^ (n.log2 + 1) * 2 ^ (52 - n.log2) :=
            Nat.mul_lt_mul_of_pos_right Nat.lt_log2_self (by positivity)
        _ = 2 ^ 53 := by
          rw [← pow_add]
          congr 1
          omega
    obtain ⟨x, hx, hmantissa, hexponent⟩ :=
      exists_parts_ofBits (e := n.log2 + 1022) (by omega) hlow hhigh
    refine ⟨x, hx, ?_⟩
    unfold Binary.value
    have hscale : ((n.log2 + 1022 : ℕ) : ℤ) - 1074 = -((52 - n.log2 : ℕ) : ℤ) := by
      omega
    rw [hmantissa, hexponent, hscale, Nat.cast_mul, Nat.cast_pow, Nat.cast_two, zpow_neg,
      zpow_natCast, mul_inv_cancel_right₀ (by positivity)]

/-! ## What scores are used for -/

/-- Whether a double is at most a count: a number that is, or minus infinity. -/
def Double.AtMost : Double → ℕ → Prop
  | nan, _ => False
  | infinite negative, _ => negative = true
  | finite negative x, n => (if negative then -x.value else x.value) ≤ n

instance : (d : Double) → (n : ℕ) → Decidable (d.AtMost n)
  | .nan, _ => inferInstanceAs (Decidable False)
  | .infinite negative, _ => inferInstanceAs (Decidable (negative = true))
  | .finite negative x, n =>
    inferInstanceAs (Decidable ((if negative then -x.value else x.value) ≤ n))

/-- A threshold compares with a count as numbers do. -/
lemma atMost_floatOfNat_iff {m : Float} (h : n < 2 ^ 53) :
    atMost m (floatOfNat n) = true ↔ (Double.ofFloat m).AtMost n := by
  obtain ⟨y, hy, hvalue⟩ := exists_value_floatOfNat h
  have hcanonical : y.Canonical := (Double.ofBits_eq_finite hy).1
  have hlt : y.bits < 0x7FF0000000000000 := hcanonical.bits_lt
  obtain ⟨hnumber, hkey⟩ := numericKey_of_finite hy
  unfold atMost
  rw [hnumber, hkey]
  cases hm : Double.ofFloat m with
  | nan => simp [isNaN_of_nan hm, Double.AtMost]
  | infinite negative =>
    obtain ⟨hnumber, hkey⟩ := numericKey_of_infinite hm
    rw [hnumber, hkey]
    cases negative with
    | false => simp [Double.AtMost, hlt]
    | true =>
      have hbelow : -0x7FF0000000000000 ≤ (y.bits : ℤ) := by
        omega
      simp [Double.AtMost, hbelow]
  | finite negative x =>
    obtain ⟨hnumber, hkey⟩ := numericKey_of_finite hm
    have hx : x.Canonical := (Double.ofBits_eq_finite hm).1
    rw [hnumber, hkey]
    cases negative with
    | false =>
      have horder : x.bits ≤ y.bits ↔ x.value ≤ n := by
        rw [hx.bits_le_bits_iff hcanonical, hvalue]
      simp [Double.AtMost, horder]
    | true =>
      -- A negative threshold is reached by every count.
      have hbelow : -(x.bits : ℤ) ≤ y.bits := by
        omega
      have hvalues : -x.value ≤ n := by
        have hpos := x.value_nonneg
        have hcount : (0 : ℚ) ≤ n := n.cast_nonneg
        linarith
      simp [Double.AtMost, hbelow, hvalues]

/-- A count takes part in selection. -/
lemma usable_floatOfNat (h : n < 2 ^ 53) : ScoreNumber.usable (floatOfNat n) = true := by
  obtain ⟨x, hx, -⟩ := exists_value_floatOfNat h
  obtain ⟨zero, hzero, hvalue⟩ := exists_value_floatOfNat (show 0 < 2 ^ 53 by norm_num)
  have hlt : x.bits < 0x7FF0000000000000 := (Double.ofBits_eq_finite hx).1.bits_lt
  have hfinite : isFinite (floatOfNat n) = true := by
    apply decide_eq_true
    rw [(place_of_finite hx).2]
    exact hlt
  have hpositive : atMost (floatOfNat 0) (floatOfNat n) = true := by
    rw [atMost_floatOfNat_iff h, hzero]
    simp [Double.AtMost, hvalue]
  exact Bool.and_eq_true_iff.mpr ⟨hfinite, hpositive⟩

lemma truncate_floatOfNat (h : n < 2 ^ 53) : truncate (floatOfNat n) = n := by
  obtain ⟨x, hx, hvalue⟩ := exists_value_floatOfNat h
  have hwhole : x.mantissa * 2 ^ x.exponent.toNat / 2 ^ (-x.exponent).toNat = n := by
    have hpower : (2 : ℚ) ^ (-x.exponent).toNat ≠ 0 := by
      positivity
    unfold Binary.value at hvalue
    rw [zpow_eq_div, ← mul_div_assoc, div_eq_iff hpower] at hvalue
    have hproduct : x.mantissa * 2 ^ x.exponent.toNat = n * 2 ^ (-x.exponent).toNat := by
      exact_mod_cast hvalue
    rw [hproduct, Nat.mul_div_cancel _ (by positivity)]
  unfold truncate
  rw [hx]
  dsimp only
  rw [Nat.pow_eq, Nat.pow_eq, hwhole]
  have hmin : minInt64 ≤ n := by
    unfold minInt64
    omega
  have hmax : (n : ℤ) ≤ maxInt64 := by
    unfold maxInt64
    omega
  simp [hmin, hmax]

/-- The text of a count as a score is its decimal text. -/
lemma scoreText_floatOfNat (h : n < 2 ^ 53) : scoreText (floatOfNat n) = toString n := by
  unfold scoreText
  rw [truncate_floatOfNat h]
  rfl

end RuleMetrics.Decimal
