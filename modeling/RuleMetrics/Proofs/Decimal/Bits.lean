import Mathlib
import RuleMetrics.Decimal.Nearest

/-!
# Doubles and their bits

The bits of a finite double are its parts side by side: the sign, and then a number that counts the
doubles from zero upwards (`Binary.bits`).  The parts that `Double.ofBits` reads off are in the one
form that doubles have (`Binary.Canonical`), with a mantissa of fifty-three digits unless the
exponent is the smallest.  So the parts make up the double again (`floatOfBits_of_ofFloat`).

That a double is what its bits make is `Float.ofBits_toBits`.  No smaller part of Mathlib brings
this lemma in, so the whole of it is imported here, and here only.
-/

namespace RuleMetrics.Decimal

/-! ## Fields -/

lemma toNat_exponentField (bits : UInt64) :
    ((bits >>> 52) &&& 0x7FF).toNat = bits.toNat / 2 ^ 52 % 2 ^ 11 := by
  have hmask : (0x7FF : UInt64).toNat = 2 ^ 11 - 1 := rfl
  have hshift : (52 : UInt64).toNat % 64 = 52 := rfl
  rw [UInt64.toNat_and, UInt64.toNat_shiftRight, hmask, Nat.and_two_pow_sub_one_eq_mod, hshift,
    Nat.shiftRight_eq_div_pow]

lemma toNat_fractionField (bits : UInt64) :
    (bits &&& 0xFFFFFFFFFFFFF).toNat = bits.toNat % 2 ^ 52 := by
  have hmask : (0xFFFFFFFFFFFFF : UInt64).toNat = 2 ^ 52 - 1 := rfl
  rw [UInt64.toNat_and, hmask, Nat.and_two_pow_sub_one_eq_mod]

lemma signBit_eq (bits : UInt64) : signBit bits = decide (2 ^ 63 ≤ bits.toNat) := by
  have hlt : bits.toNat < 2 ^ 64 := bits.toNat_lt
  have hshift : (63 : UInt64).toNat % 64 = 63 := rfl
  have hone : (1 : UInt64).toNat = 1 := rfl
  unfold signBit
  rw [Bool.eq_iff_iff, beq_iff_eq, decide_eq_true_iff, ← UInt64.toNat_inj,
    UInt64.toNat_shiftRight, hshift, Nat.shiftRight_eq_div_pow, hone]
  omega

lemma magnitudeBits_eq (bits : UInt64) : magnitudeBits bits = bits.toNat % 2 ^ 63 := by
  have hmask : (0x7FFFFFFFFFFFFFFF : UInt64).toNat = 2 ^ 63 - 1 := rfl
  unfold magnitudeBits
  rw [UInt64.toNat_and, hmask, Nat.and_two_pow_sub_one_eq_mod]

/-- The bits of a finite double are those that it is made of. -/
lemma toBits_ofBits {bits : UInt64} (h : bits.toNat / 2 ^ 52 % 2 ^ 11 ≠ 2 ^ 11 - 1) :
    (Float.ofBits bits).toBits = bits := by
  have hvalid : Float.Model.Format.binary64.Valid bits.toBitVec := by
    refine ⟨fun hexponent => absurd ?_ h⟩
    have hfield := congrArg BitVec.toNat hexponent
    simp [Float.Model.UnpackedFloat.unpackExponent, Nat.shiftRight_eq_div_pow] at hfield
    omega
  exact congrArg Float.toBits (Float.ofBits_toBits ⟨⟨bits, hvalid⟩⟩)

/-! ## Parts -/

/-- The parts of a finite double in the one form that its bits can hold. -/
structure Binary.Canonical (x : Binary) : Prop where
  mantissa_lt : x.mantissa < 2 ^ 53
  exponent_ge : -1074 ≤ x.exponent
  exponent_le : x.exponent ≤ 971
  le_mantissa : -1074 < x.exponent → 2 ^ 52 ≤ x.mantissa
  narrowBelow_iff : x.narrowBelow = true ↔ x.mantissa = 2 ^ 52 ∧ -1074 < x.exponent

/-- The bits of a finite double apart from its sign. -/
def Binary.bits (x : Binary) : ℕ :=
  (x.exponent + 1074).toNat * 2 ^ 52 + x.mantissa

lemma Double.ofBits_eq_finite {bits : UInt64} {negative : Bool} {x : Binary}
    (h : Double.ofBits bits = .finite negative x) :
    x.Canonical ∧ bits.toNat = (if negative then 2 ^ 63 else 0) + x.bits := by
  have hlt : bits.toNat < 2 ^ 64 := bits.toNat_lt
  have hpow : Nat.pow 2 52 = 2 ^ 52 := rfl
  unfold Double.ofBits at h
  dsimp only at h
  rw [toNat_exponentField, toNat_fractionField] at h
  split at h
  · split at h
    · cases h
    · cases h
  · split at h
    · cases h
      refine ⟨⟨?_, ?_, ?_, ?_, ?_⟩, ?_⟩
      · simp only
        omega
      · simp
      · simp
      · simp
      · simp
      · simp only [signBit_eq, decide_eq_true_eq, Binary.bits]
        split <;> omega
    · cases h
      refine ⟨⟨?_, ?_, ?_, ?_, ?_⟩, ?_⟩
      · simp only
        omega
      · simp only
        omega
      · simp only
        omega
      · simp only
        omega
      · simp only [Bool.and_eq_true, decide_eq_true_eq]
        omega
      · simp only [signBit_eq, decide_eq_true_eq, Binary.bits]
        split <;> omega

lemma exists_finite_of_isFinite {x : Float} (h : isFinite x = true) :
    ∃ negative value, Double.ofFloat x = .finite negative value := by
  have hmagnitude : x.toBits.toNat % 2 ^ 63 < 0x7FF0000000000000 := by
    rw [← magnitudeBits_eq]
    exact of_decide_eq_true h
  unfold Double.ofFloat Double.ofBits
  dsimp only
  rw [toNat_exponentField, if_neg (by omega)]
  split
  · exact ⟨_, _, rfl⟩
  · exact ⟨_, _, rfl⟩

/-- A finite double is put together from the parts that were read off it. -/
lemma floatOfBits_of_ofFloat {x : Float} {negative : Bool} {value : Binary}
    (h : Double.ofFloat x = .finite negative value) : floatOfBits negative value.bits = x := by
  have hbits := (Double.ofBits_eq_finite h).2
  have hsign : (if negative then Nat.pow 2 63 + value.bits else value.bits) = x.toBits.toNat := by
    rw [hbits]
    cases negative with
    | false => simp
    | true => rfl
  unfold floatOfBits
  rw [hsign, UInt64.ofNat_toNat, Float.ofBits_toBits]

end RuleMetrics.Decimal
