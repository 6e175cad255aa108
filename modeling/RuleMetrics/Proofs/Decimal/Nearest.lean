import RuleMetrics.Proofs.Decimal.Bits
import RuleMetrics.Proofs.Decimal.Interval

/-!
# Rounding to the nearest double

Every number that rounds to a double is rounded to it: `nearestBits_of_rounds` goes from the
interval of a double to its bits.  Mostly the number is rounded with the spacing of the double
itself.  The exception is a power of two, below which the spacing is half as wide; a number from
there is rounded up to twice the mantissa, and the carry leads to the bits of the power of two.
-/

namespace RuleMetrics.Decimal

variable {num den : ℕ}

/-! ## Fractions -/

/-- A fraction is rounded to a number that is at most a half away, and that is even if it is just a
half away. -/
lemma roundHalfEven_eq {m : ℕ} (hden : 0 < den) (hlow : (m : ℚ) - 1 / 2 ≤ num / den)
    (hhigh : (num : ℚ) / den ≤ m + 1 / 2)
    (htie : (num : ℚ) / den = m - 1 / 2 ∨ (num : ℚ) / den = m + 1 / 2 → m % 2 = 0) :
    roundHalfEven num den = m := by
  have hden' : (0 : ℚ) < den := by exact_mod_cast hden
  rw [le_div_iff₀ hden'] at hlow
  rw [div_le_iff₀ hden'] at hhigh
  rw [div_eq_iff hden'.ne', div_eq_iff hden'.ne'] at htie
  have hnum : (num : ℚ) = den * (num / den : ℕ) + (num % den : ℕ) := by
    exact_mod_cast (Nat.div_add_mod num den).symm
  have hmod : ((num % den : ℕ) : ℚ) < den := by exact_mod_cast Nat.mod_lt num hden
  have hmod' : (0 : ℚ) ≤ (num % den : ℕ) := by positivity
  unfold roundHalfEven
  generalize num / den = q at *
  generalize num % den = r at *
  -- the number is the quotient or the one after it
  have hle : q ≤ m := by
    by_contra h
    have hstep : (m : ℚ) + 1 ≤ q := by exact_mod_cast Nat.lt_of_not_le h
    nlinarith
  have hge : m ≤ q + 1 := by
    by_contra h
    have hstep : (q : ℚ) + 2 ≤ m := by exact_mod_cast Nat.lt_of_not_le h
    nlinarith
  have hcases : m = q ∨ m = q + 1 := by omega
  rcases Nat.lt_trichotomy (2 * r) den with hr | hr | hr
  · have hr' : (2 * r : ℚ) < den := by exact_mod_cast hr
    rw [Nat.compare_eq_lt.mpr hr]
    rcases hcases with rfl | rfl
    · rfl
    · push_cast at hlow
      nlinarith
  · have hr' : (2 * r : ℚ) = den := by exact_mod_cast hr
    rw [Nat.compare_eq_eq.mpr hr]
    change q + q % 2 = m
    rcases hcases with rfl | rfl
    · have heven := htie (Or.inr (by rw [hnum]; linarith))
      omega
    · have heven := htie (Or.inl (by rw [hnum]; push_cast; linarith))
      omega
  · have hr' : (den : ℚ) < 2 * r := by exact_mod_cast hr
    rw [Nat.compare_eq_gt.mpr hr]
    rcases hcases with rfl | rfl
    · nlinarith
    · rfl

lemma scale_pos (hden : 0 < den) (s : ℤ) : 0 < den * Nat.pow 2 s.toNat :=
  Nat.mul_pos hden (Nat.pow_pos (by decide))

/-- Multiplying out a power of two in a fraction. -/
lemma scale_fraction (num den : ℕ) (s : ℤ) :
    ((num * Nat.pow 2 (-s).toNat : ℕ) : ℚ) / (den * Nat.pow 2 s.toNat : ℕ) =
      num / den / 2 ^ s := by
  rw [zpow_eq_div 2 s]
  simp only [Nat.pow_eq]
  push_cast
  rw [div_div_eq_mul_div, div_mul_eq_mul_div, div_div]

/-- A positive fraction lies between the power of two at its leading place and the next. -/
lemma leadingPlace_spec (hnum : 0 < num) (hden : 0 < den) :
    (2 : ℚ) ^ leadingPlace num den ≤ num / den ∧
      (num : ℚ) / den < 2 ^ (leadingPlace num den + 1) := by
  have hden' : (0 : ℚ) < den := by exact_mod_cast hden
  have hnumLow : (2 : ℚ) ^ (num.log2 : ℤ) ≤ num := by
    exact_mod_cast Nat.log2_self_le hnum.ne'
  have hnumHigh : (num : ℚ) < 2 ^ ((num.log2 : ℤ) + 1) := by
    exact_mod_cast Nat.lt_log2_self (n := num)
  have hdenLow : (2 : ℚ) ^ (den.log2 : ℤ) ≤ den := by
    exact_mod_cast Nat.log2_self_le hden.ne'
  have hdenHigh : (den : ℚ) < 2 ^ ((den.log2 : ℤ) + 1) := by
    exact_mod_cast Nat.lt_log2_self (n := den)
  unfold leadingPlace
  dsimp only
  generalize hplace : (num.log2 : ℤ) - den.log2 = place
  have hlow : (2 : ℚ) ^ (place - 1) ≤ num / den := by
    rw [le_div_iff₀ hden']
    calc
      (2 : ℚ) ^ (place - 1) * den ≤ 2 ^ (place - 1) * 2 ^ ((den.log2 : ℤ) + 1) := by gcongr
      _ = 2 ^ (num.log2 : ℤ) := by
        rw [← zpow_add₀ two_ne_zero]
        congr 1
        omega
      _ ≤ num := hnumLow
  have hhigh : (num : ℚ) / den < 2 ^ (place + 1) := by
    rw [div_lt_iff₀ hden']
    calc
      (num : ℚ) < 2 ^ ((num.log2 : ℤ) + 1) := hnumHigh
      _ = 2 ^ (place + 1) * 2 ^ (den.log2 : ℤ) := by
        rw [← zpow_add₀ two_ne_zero]
        congr 1
        omega
      _ ≤ 2 ^ (place + 1) * den := by gcongr
  have hbelow : num * Nat.pow 2 (-place).toNat < den * Nat.pow 2 place.toNat ↔
      (num : ℚ) / den < 2 ^ place := by
    have hscale : (0 : ℚ) < (den * Nat.pow 2 place.toNat : ℕ) := by
      exact_mod_cast scale_pos hden place
    rw [← Nat.cast_lt (α := ℚ), ← div_lt_one hscale, scale_fraction,
      div_lt_one (by positivity)]
  split
  · next h =>
    rw [sub_add_cancel]
    exact ⟨hlow, hbelow.mp h⟩
  · next h => exact ⟨not_lt.mp (mt hbelow.mpr h), hhigh⟩

/-! ## Doubles -/

namespace Binary

variable {x : Binary} {v : ℚ}

/-- Powers of two around a double, in quarters of the gap above it. -/
lemma two_zpow_eq (k : ℕ) {e place : ℤ} (h : place = e - 2 + k) :
    (2 : ℚ) ^ place = 2 ^ k * 2 ^ (e - 2) := by
  rw [h, zpow_add₀ two_ne_zero, zpow_natCast, mul_comm]

/-- The lower end is half a gap away from the double, or nearer. -/
lemma sub_two_le_low (x : Binary) : 4 * (x.mantissa : ℚ) - 2 ≤ x.low := by
  have h : 4 * x.mantissa ≤ x.low + 2 := by
    unfold low
    split <;> omega
  have h' : (4 * x.mantissa : ℚ) ≤ x.low + 2 := by exact_mod_cast h
  linarith

lemma Rounds.lt_of_canonical (h : x.Rounds v) (hx : x.Canonical) :
    v < 2 ^ (x.exponent + 53) := by
  have hhigh : (x.high : ℚ) < 2 ^ 55 := by
    have hlt := hx.mantissa_lt
    have : x.high < 2 ^ 55 := by
      unfold high
      omega
    exact_mod_cast this
  have hpower : (2 : ℚ) ^ (x.exponent + 53) = 2 ^ 55 * 2 ^ (x.exponent - 2) :=
    two_zpow_eq 55 (by omega)
  calc
    v ≤ x.high * 2 ^ (x.exponent - 2) := h.le_high
    _ < 2 ^ 55 * 2 ^ (x.exponent - 2) := by gcongr
    _ = 2 ^ (x.exponent + 53) := hpower.symm

/-- Above the middle of a narrow gap. -/
lemma Rounds.le_of_narrowBelow (h : x.Rounds v) (hx : x.Canonical)
    (hnarrow : x.narrowBelow = true) : (2 ^ 54 - 1) * 2 ^ (x.exponent - 2) ≤ v := by
  have hlow : (x.low : ℚ) = 2 ^ 54 - 1 := by
    have hmantissa := (hx.narrowBelow_iff.mp hnarrow).1
    have : x.low + 1 = 2 ^ 54 := by
      unfold low
      rw [if_pos hnarrow]
      omega
    rw [eq_sub_iff_add_eq]
    exact_mod_cast this
  rw [← hlow]
  exact h.low_le

lemma Rounds.le_of_not_narrowBelow (h : x.Rounds v) (hx : x.Canonical)
    (hexponent : -1074 < x.exponent) (hnarrow : x.narrowBelow = false) :
    2 ^ (x.exponent + 52) ≤ v := by
  have hlow : (2 ^ 54 : ℚ) ≤ x.low := by
    have hle := hx.le_mantissa hexponent
    have hne : x.mantissa ≠ 2 ^ 52 := by
      intro heq
      rw [hx.narrowBelow_iff.mpr ⟨heq, hexponent⟩] at hnarrow
      cases hnarrow
    have : 2 ^ 54 ≤ x.low := by
      unfold low
      rw [if_neg (by simp [hnarrow])]
      omega
    exact_mod_cast this
  have hpower : (2 : ℚ) ^ (x.exponent + 52) = 2 ^ 54 * 2 ^ (x.exponent - 2) :=
    two_zpow_eq 54 (by omega)
  calc
    (2 : ℚ) ^ (x.exponent + 52) = 2 ^ 54 * 2 ^ (x.exponent - 2) := hpower
    _ ≤ x.low * 2 ^ (x.exponent - 2) := by gcongr
    _ ≤ v := h.low_le

/-- A number is rounded with the spacing of the double that it rounds to, or with half of it if it
lies in the narrow gap below the double. -/
lemma Rounds.spacing_cases (h : x.Rounds v) (hx : x.Canonical) {place : ℤ}
    (hlow : 2 ^ place ≤ v) (hhigh : v < 2 ^ (place + 1)) :
    max (-1074) (place - 52) = x.exponent ∨
      x.narrowBelow = true ∧ max (-1074) (place - 52) = x.exponent - 1 ∧
        v < 2 ^ (x.exponent + 52) := by
  have hge := hx.exponent_ge
  have hplace : place < x.exponent + 53 :=
    (zpow_lt_zpow_iff_right₀ one_lt_two).mp (hlow.trans_lt (h.lt_of_canonical hx))
  by_cases hexponent : -1074 < x.exponent
  · by_cases hv : 2 ^ (x.exponent + 52) ≤ v
    · have hplace' : x.exponent + 52 < place + 1 :=
        (zpow_lt_zpow_iff_right₀ (one_lt_two (α := ℚ))).mp (hv.trans_lt hhigh)
      omega
    · have hnarrow : x.narrowBelow = true := by
        by_contra hnot
        exact hv (h.le_of_not_narrowBelow hx hexponent (Bool.eq_false_iff.mpr hnot))
      have hbelow : place < x.exponent + 52 :=
        (zpow_lt_zpow_iff_right₀ one_lt_two).mp (hlow.trans_lt (not_le.mp hv))
      have hmiddle : (2 : ℚ) ^ (x.exponent + 51) ≤ v := by
        have hpower : (2 : ℚ) ^ (x.exponent + 51) = 2 ^ 53 * 2 ^ (x.exponent - 2) :=
    two_zpow_eq 53 (by omega)
        rw [hpower]
        refine le_trans ?_ (h.le_of_narrowBelow hx hnarrow)
        gcongr
        norm_num
      have hplace' : x.exponent + 51 < place + 1 :=
        (zpow_lt_zpow_iff_right₀ (one_lt_two (α := ℚ))).mp (hmiddle.trans_lt hhigh)
      exact Or.inr ⟨hnarrow, by omega, not_le.mp hv⟩
  · -- the smallest spacing is that of all smaller numbers as well
    omega

/-- With its own spacing a double is rounded to its mantissa. -/
lemma Rounds.roundHalfEven_eq (h : x.Rounds (num / den)) (hden : 0 < den) :
    roundHalfEven (num * Nat.pow 2 (-x.exponent).toNat) (den * Nat.pow 2 x.exponent.toNat) =
      x.mantissa := by
  have hgap : (0 : ℚ) < 2 ^ (x.exponent - 2) := by positivity
  have hquarters : (2 : ℚ) ^ x.exponent = 2 ^ 2 * 2 ^ (x.exponent - 2) :=
    two_zpow_eq 2 (by omega)
  have hlow := mul_le_mul_of_nonneg_right x.sub_two_le_low hgap.le
  have hhigh : (x.high : ℚ) = 4 * x.mantissa + 2 := by
    unfold high
    push_cast
    ring
  have hbelow := h.below
  rw [hhigh] at hbelow
  apply Decimal.roundHalfEven_eq (scale_pos hden _)
  · rw [scale_fraction, hquarters, le_div_iff₀ (by positivity)]
    linarith [h.low_le]
  · rw [scale_fraction, hquarters, div_le_iff₀ (by positivity)]
    rcases hbelow with hlt | ⟨-, heq⟩ <;> linarith
  · rw [scale_fraction, hquarters]
    rintro (hv | hv)
    · rw [div_eq_iff (by positivity)] at hv
      rcases h.above with hlt | ⟨heven, -⟩
      · rw [hv] at hlt
        linarith
      · exact heven
    · rw [div_eq_iff (by positivity)] at hv
      rcases hbelow with hlt | ⟨heven, -⟩
      · rw [hv] at hlt
        linarith
      · exact heven

/-- In the narrow gap below a power of two, a number is rounded to twice the mantissa. -/
lemma Rounds.roundHalfEven_of_narrowBelow (h : x.Rounds (num / den)) (hx : x.Canonical)
    (hden : 0 < den) (hnarrow : x.narrowBelow = true)
    (hv : (num : ℚ) / den < 2 ^ (x.exponent + 52)) :
    roundHalfEven (num * Nat.pow 2 (-(x.exponent - 1)).toNat)
      (den * Nat.pow 2 (x.exponent - 1).toNat) = 2 ^ 53 := by
  have hlow := h.le_of_narrowBelow hx hnarrow
  have hhalves : (2 : ℚ) ^ (x.exponent - 1) = 2 ^ 1 * 2 ^ (x.exponent - 2) :=
    two_zpow_eq 1 (by omega)
  have hpower : (2 : ℚ) ^ (x.exponent + 52) = 2 ^ 54 * 2 ^ (x.exponent - 2) :=
    two_zpow_eq 54 (by omega)
  rw [hpower] at hv
  apply Decimal.roundHalfEven_eq (scale_pos hden _)
  · rw [scale_fraction, hhalves, le_div_iff₀ (by positivity)]
    push_cast
    linarith
  · rw [scale_fraction, hhalves, div_le_iff₀ (by positivity)]
    push_cast
    linarith
  · intro _
    decide

/-- What rounds to a double is rounded to it. -/
lemma Rounds.nearestBits_eq (h : x.Rounds (num / den)) (hx : x.Canonical) (hnum : 0 < num)
    (hden : 0 < den) : nearestBits num den = x.bits := by
  have hlt := hx.mantissa_lt
  have hge := hx.exponent_ge
  have hle := hx.exponent_le
  have hpow : Nat.pow 2 52 = 2 ^ 52 := rfl
  obtain ⟨hlow, hhigh⟩ := leadingPlace_spec hnum hden
  unfold nearestBits infinityBits bits
  dsimp only
  rcases h.spacing_cases hx hlow hhigh with hspacing | ⟨hnarrow, hspacing, hv⟩
  · rw [hspacing, h.roundHalfEven_eq hden, hpow]
    omega
  · -- twice the mantissa with half of the spacing carries into the exponent
    obtain ⟨hmantissa, hexponent⟩ := hx.narrowBelow_iff.mp hnarrow
    rw [hspacing, h.roundHalfEven_of_narrowBelow hx hden hnarrow hv, hpow]
    omega

end Binary

/-! ## Decimals -/

namespace Scaled

variable {d : Scaled}

/-- The place before the first digit of a decimal. -/
def top (d : Scaled) : ℤ :=
  d.exponent + (natDigits d.digits).length

lemma value_lt_top (d : Scaled) : d.value < 10 ^ d.top := by
  have hpos : 0 < (natDigits d.digits).length := Nat.length_toDigits_pos
  have hdigits : d.digits < 10 ^ (natDigits d.digits).length :=
    (Nat.length_toDigits_le_iff (by decide) hpos).mp (Nat.le_refl _)
  have hdigits' : (d.digits : ℚ) < 10 ^ ((natDigits d.digits).length : ℤ) := by
    exact_mod_cast hdigits
  unfold value top
  rw [zpow_add₀ (by norm_num), mul_comm]
  gcongr

lemma top_le_value (hd : d.digits ≠ 0) : 10 ^ (d.top - 1) ≤ d.value := by
  have hdigits : 10 ^ ((natDigits d.digits).length - 1) ≤ d.digits := by
    by_cases hone : (natDigits d.digits).length - 1 = 0
    · rw [hone]
      omega
    · by_contra hlt
      have hle := (Nat.length_toDigits_le_iff (by decide) (by omega)).mpr (Nat.lt_of_not_le hlt)
      unfold natDigits at hle hone
      omega
  have hpos : 0 < (natDigits d.digits).length := Nat.length_toDigits_pos
  have hplace : d.top - 1 = d.exponent + ((natDigits d.digits).length - 1 : ℕ) := by
    unfold top
    omega
  have hdigits' : (10 : ℚ) ^ (((natDigits d.digits).length - 1 : ℕ) : ℤ) ≤ d.digits := by
    exact_mod_cast hdigits
  unfold value
  rw [hplace, zpow_add₀ (by norm_num), mul_comm]
  gcongr

/-- A decimal is the fraction that it is rounded as. -/
lemma value_eq_div (d : Scaled) :
    d.value =
      (d.digits * Nat.pow 10 d.exponent.toNat : ℕ) / (Nat.pow 10 (-d.exponent).toNat : ℕ) := by
  unfold value
  rw [zpow_eq_div 10 d.exponent]
  simp only [Nat.pow_eq]
  push_cast
  rw [mul_div_assoc]

lemma two_pow_le_ten_pow (k : ℕ) : (2 : ℚ) ^ (3 * k) ≤ 10 ^ k := by
  rw [pow_mul]
  exact pow_le_pow_left₀ (by norm_num) (by norm_num) k

/-- A decimal that rounds to a double is rounded to it, since it is not beyond the range in which
the power of ten is computed. -/
lemma nearestBits_of_rounds {x : Binary} (h : x.Rounds d.value) (hx : x.Canonical)
    (hpos : 0 < x.mantissa) : d.nearestBits = x.bits := by
  have hge := hx.exponent_ge
  have hle := hx.exponent_le
  have hsmall : (10 : ℚ) ^ (-401 : ℤ) ≤ d.value := by
    have hlow : (1 : ℚ) ≤ x.low := by
      have : 1 ≤ x.low := by
        unfold Binary.low
        split <;> omega
      exact_mod_cast this
    calc
      (10 : ℚ) ^ (-401 : ℤ) = (10 ^ 401)⁻¹ := by rw [zpow_neg, zpow_ofNat]
      _ ≤ (2 ^ (3 * 401))⁻¹ := inv_anti₀ (by positivity) (two_pow_le_ten_pow 401)
      _ = 2 ^ (-1203 : ℤ) := by rw [zpow_neg, zpow_ofNat]
      _ ≤ 2 ^ (x.exponent - 2) := zpow_le_zpow_right₀ one_le_two (by omega)
      _ ≤ x.low * 2 ^ (x.exponent - 2) := le_mul_of_one_le_left (by positivity) hlow
      _ ≤ d.value := h.low_le
  have hlarge : d.value < (10 : ℚ) ^ (400 : ℤ) := by
    calc
      d.value < 2 ^ (x.exponent + 53) := h.lt_of_canonical hx
      _ ≤ 2 ^ (1200 : ℤ) := zpow_le_zpow_right₀ one_le_two (by omega)
      _ = 2 ^ (3 * 400) := by rw [zpow_ofNat]
      _ ≤ 10 ^ 400 := two_pow_le_ten_pow 400
      _ = 10 ^ (400 : ℤ) := by rw [zpow_ofNat]
  have hdigits : d.digits ≠ 0 := by
    intro hzero
    have hvalue : d.value = 0 := by
      unfold value
      rw [hzero, Nat.cast_zero, zero_mul]
    rw [hvalue] at hsmall
    exact absurd hsmall (not_le.mpr (by positivity))
  have hbottom : -401 < d.top :=
    (zpow_lt_zpow_iff_right₀ (by norm_num : (1 : ℚ) < 10)).mp (hsmall.trans_lt d.value_lt_top)
  have htop : d.top - 1 < 400 :=
    (zpow_lt_zpow_iff_right₀ (by norm_num : (1 : ℚ) < 10)).mp
      ((top_le_value hdigits).trans_lt hlarge)
  unfold top at hbottom htop
  rw [value_eq_div] at h
  unfold nearestBits
  rw [if_neg (by omega), if_neg (by omega)]
  exact h.nearestBits_eq hx
    (Nat.mul_pos (Nat.pos_of_ne_zero hdigits) (Nat.pow_pos (by decide)))
    (Nat.pow_pos (by decide))

end Scaled

end RuleMetrics.Decimal
