import RuleMetrics.Proofs.Decimal.Digits
import RuleMetrics.Proofs.Decimal.Nearest

/-!
# Doubles survive writing and reading

A finite double is read back from its text (`readFloat?_floatText`), sign and zero included.  The
text holds all digits of the shortest decimal, with zeros at one end, so what is read off it is a
decimal of the same value (`readUnsigned?_positional`), and that one rounds to the double.
-/

namespace RuleMetrics.Decimal

variable {ds rest : List Char}

/-! ## Reading digits -/

lemma spanDigits_append (hds : ∀ c ∈ ds, c.isDigit = true)
    (hrest : ∀ c ∈ rest.head?, c.isDigit = false) : spanDigits (ds ++ rest) = (ds, rest) := by
  have htake : rest.takeWhile Char.isDigit = [] := by
    cases rest with
    | nil => rfl
    | cons c rest => simp [hrest c rfl]
  have hdrop : rest.dropWhile Char.isDigit = rest := by
    cases rest with
    | nil => rfl
    | cons c rest => simp [hrest c rfl]
  unfold spanDigits
  rw [List.takeWhile_append_of_pos hds, List.dropWhile_append_of_pos hds, htake, hdrop,
    List.append_nil]

lemma spanDigits_eq_self (hds : ∀ c ∈ ds, c.isDigit = true) : spanDigits ds = (ds, []) := by
  have hnil : ∀ c ∈ ([] : List Char).head?, c.isDigit = false := by
    simp
  have h := spanDigits_append hds hnil
  rwa [List.append_nil] at h

/-- Digits alone are a whole number. -/
lemma readUnsigned?_digits (hne : ds ≠ []) (hds : ∀ c ∈ ds, c.isDigit = true) :
    readUnsigned? ds = some ⟨Nat.ofDigitChars 10 ds 0, 0⟩ := by
  unfold readUnsigned?
  rw [spanDigits_eq_self hds]
  simp [readNat?_of_isDigit hne hds, readExponent?]

/-- With a point among the digits, those behind the point are counted. -/
lemma readUnsigned?_point {whole fraction : List Char} (hne : whole ++ fraction ≠ [])
    (hdigits : ∀ c ∈ whole ++ fraction, c.isDigit = true) :
    readUnsigned? (whole ++ '.' :: fraction) =
      some ⟨Nat.ofDigitChars 10 (whole ++ fraction) 0, -fraction.length⟩ := by
  have hwhole : spanDigits (whole ++ '.' :: fraction) = (whole, '.' :: fraction) := by
    apply spanDigits_append
    · exact fun c hc => hdigits c (List.mem_append_left _ hc)
    · rintro c ⟨⟩
      decide
  have hfraction : spanDigits fraction = (fraction, []) :=
    spanDigits_eq_self fun c hc => hdigits c (List.mem_append_right whole hc)
  unfold readUnsigned?
  rw [hwhole]
  simp only [hfraction, readNat?_of_isDigit hne hdigits, readExponent?]
  simp

/-! ## Reading decimals -/

lemma isDigit_of_mem_head? {d : Scaled} {c : Char} (hc : c ∈ d.positional.head?) :
    c.isDigit = true := by
  unfold Scaled.positional at hc
  dsimp only at hc
  split at hc
  · rcases List.mem_append.mp (List.mem_of_mem_head? hc) with hc | hc
    · exact isDigit_of_mem_natDigits hc
    · exact isDigit_of_mem_zeros hc
  · split at hc
    · next hplaces =>
      rw [List.head?_append_of_ne_nil] at hc
      · exact isDigit_of_mem_natDigits (List.mem_of_mem_take (List.mem_of_mem_head? hc))
      · intro hnil
        have hlength := congrArg List.length hnil
        rw [List.length_take, List.length_nil] at hlength
        omega
    · cases hc
      decide

/-- The text of a whole number. -/
lemma readUnsigned?_zeros (n k : ℕ) :
    readUnsigned? (natDigits n ++ zeros k) = some ⟨10 ^ k * n, 0⟩ := by
  have hvalue : Nat.ofDigitChars 10 (natDigits n ++ zeros k) 0 = 10 ^ k * n := by
    unfold natDigits zeros
    rw [Nat.ofDigitChars_append, Nat.ofDigitChars_ten_toDigits, Nat.ofDigitChars_replicate_zero]
  rw [readUnsigned?_digits, hvalue]
  · exact List.append_ne_nil_of_left_ne_nil (natDigits_ne_nil n) _
  · intro c hc
    rcases List.mem_append.mp hc with hc | hc
    · exact isDigit_of_mem_natDigits hc
    · exact isDigit_of_mem_zeros hc

/-- The text of a number with digits on both sides of the point. -/
lemma readUnsigned?_take_drop (n k : ℕ) :
    readUnsigned? ((natDigits n).take k ++ '.' :: (natDigits n).drop k) =
      some ⟨n, -((natDigits n).length - k : ℕ)⟩ := by
  have hvalue : Nat.ofDigitChars 10 (natDigits n) 0 = n := Nat.ofDigitChars_ten_toDigits
  rw [readUnsigned?_point, List.take_append_drop, hvalue, List.length_drop]
  · rw [List.take_append_drop]
    exact natDigits_ne_nil n
  · rw [List.take_append_drop]
    exact fun c hc => isDigit_of_mem_natDigits hc

/-- The text of a number below one. -/
lemma readUnsigned?_zero_point (n k : ℕ) :
    readUnsigned? ('0' :: '.' :: zeros k ++ natDigits n) =
      some ⟨n, -(k + (natDigits n).length : ℕ)⟩ := by
  have htext : '0' :: '.' :: zeros k ++ natDigits n = ['0'] ++ '.' :: (zeros k ++ natDigits n) :=
    rfl
  have hzeros : ['0'] ++ (zeros k ++ natDigits n) = zeros (k + 1) ++ natDigits n := rfl
  have hvalue : Nat.ofDigitChars 10 (zeros (k + 1) ++ natDigits n) 0 = n := by
    unfold natDigits zeros
    rw [Nat.ofDigitChars_append, Nat.ofDigitChars_replicate_zero, Nat.mul_zero,
      Nat.ofDigitChars_ten_toDigits]
  have hlength : (zeros k).length = k := List.length_replicate
  rw [htext, readUnsigned?_point, hzeros, hvalue, List.length_append, hlength]
  · exact List.cons_ne_nil _ _
  · rw [hzeros]
    intro c hc
    rcases List.mem_append.mp hc with hc | hc
    · exact isDigit_of_mem_zeros hc
    · exact isDigit_of_mem_natDigits hc

/-- What is read off the text of a decimal is worth as much. -/
lemma readUnsigned?_positional (d : Scaled) :
    ∃ d', readUnsigned? d.positional = some d' ∧ d'.value = d.value := by
  unfold Scaled.positional
  dsimp only
  split
  · next hexponent =>
    refine ⟨_, readUnsigned?_zeros _ _, ?_⟩
    have hpower : (10 : ℚ) ^ d.exponent = 10 ^ d.exponent.toNat := by
      rw [← zpow_natCast, Int.toNat_of_nonneg hexponent]
    unfold Scaled.value
    rw [hpower]
    push_cast
    rw [mul_one, mul_comm]
  · next hexponent =>
    split
    · next hplaces =>
      refine ⟨_, readUnsigned?_take_drop _ _, ?_⟩
      have hfraction : -(((natDigits d.digits).length -
          ((natDigits d.digits).length - (-d.exponent).toNat) : ℕ) : ℤ) = d.exponent := by
        omega
      rw [hfraction]
    · next hplaces =>
      refine ⟨_, readUnsigned?_zero_point _ _, ?_⟩
      have hfraction : -(((-d.exponent).toNat - (natDigits d.digits).length +
          (natDigits d.digits).length : ℕ) : ℤ) = d.exponent := by
        omega
      rw [hfraction]

/-- No word starts with a digit. -/
lemma readWord?_of_isDigit (hds : ∀ c ∈ ds.head?, c.isDigit = true) : readWord? ds = none := by
  cases ds with
  | nil => rfl
  | cons c ds =>
    have hc : c.isDigit = true := hds c rfl
    have hlower : c.toLower = c := by
      apply Char.toLower_eq_of_not_isUpper
      intro hupper
      simp only [Char.isUpper, Char.isDigit, Bool.and_eq_true, decide_eq_true_eq] at hc hupper
      exact absurd (UInt32.le_trans hupper.1 hc.2) (by decide)
    unfold readWord?
    rw [List.map_cons, hlower]
    split
    · next heq =>
      obtain ⟨rfl, -⟩ := List.cons.inj heq
      exact absurd hc (by decide)
    · next heq =>
      obtain ⟨rfl, -⟩ := List.cons.inj heq
      exact absurd hc (by decide)
    · next heq =>
      obtain ⟨rfl, -⟩ := List.cons.inj heq
      exact absurd hc (by decide)
    · rfl

/-! ## Reading doubles -/

/-- A text that starts with a digit is read as a number, with a minus sign in front or not. -/
lemma readFloat?_signed (negative : Bool) (hds : ∀ c ∈ ds.head?, c.isDigit = true) :
    readFloat? (signed negative ds) =
      ((readUnsigned? ds).map Scaled.nearestBits).map (floatOfBits negative) := by
  have hsplit : splitSign (signed negative ds).toList = (negative, ds) := by
    unfold signed
    rw [String.toList_ofList]
    cases negative with
    | false => exact splitSign_of_isDigit hds
    | true => rfl
  unfold readFloat?
  simp only [hsplit, readWord?_of_isDigit hds]

/-- A finite double is read back from its text. -/
lemma readFloat?_floatText {x : Float} (hx : isFinite x = true) :
    readFloat? (floatText x) = some x := by
  obtain ⟨negative, value, h⟩ := exists_finite_of_isFinite hx
  have hcanonical := (Double.ofBits_eq_finite h).1
  have hback := floatOfBits_of_ofFloat h
  unfold floatText
  rw [h]
  dsimp only
  split
  · next hzero =>
    -- a mantissa of zero is found with the smallest exponent only
    have hexponent : value.exponent = -1074 := by
      have hge := hcanonical.exponent_ge
      by_contra hne
      have hle := hcanonical.le_mantissa (by omega)
      omega
    have hbits : value.bits = 0 := by
      unfold Binary.bits
      rw [hexponent, hzero]
      rfl
    rw [readFloat?_signed negative (by simp), readUnsigned?_digits (by simp) (by simp)]
    rw [hbits] at hback
    exact congrArg some hback
  · next hne =>
    obtain ⟨d, hd, hvalue⟩ := readUnsigned?_positional (value.shortest .up)
    have hrounds : value.Rounds d.value := by
      rw [hvalue]
      exact Binary.rounds_shortest .up (Nat.pos_of_ne_zero hne)
    rw [readFloat?_signed negative fun c hc => isDigit_of_mem_head? hc, hd]
    simp only [Option.map_some]
    rw [Scaled.nearestBits_of_rounds hrounds hcanonical (Nat.pos_of_ne_zero hne), hback]

end RuleMetrics.Decimal
