import Mathlib.Tactic.Common
import RuleMetrics.Decimal.Reading
import RuleMetrics.Proofs.Text.Alphanumeric

/-!
# Digits

Writing a natural number in base ten and reading the digits gives the number back, and integers of
sixty-four bits follow (`readInt?_intText`).  The lemmas about characters say what numbers are
written with: digits, a minus sign, and for doubles a point.
-/

namespace RuleMetrics.Decimal

variable {c : Char} {n : Nat}

/-! ## Natural numbers -/

lemma isDigit_of_mem_natDigits (hc : c ∈ natDigits n) : c.isDigit = true :=
  Nat.isDigit_of_mem_toDigits (by decide) (by decide) hc

lemma natDigits_ne_nil (n : Nat) : natDigits n ≠ [] :=
  Nat.toDigits_ne_nil

lemma readNat?_of_isDigit {cs : List Char} (hne : cs ≠ []) (hcs : ∀ c ∈ cs, c.isDigit = true) :
    readNat? cs = some (Nat.ofDigitChars 10 cs 0) := by
  have hempty : cs.isEmpty = false := by
    simpa using hne
  have hall : cs.all Char.isDigit = true := List.all_eq_true.mpr hcs
  unfold readNat?
  rw [hempty, hall, Nat.ofDigitChars_eq_foldl]
  rfl

lemma readNat?_eq_some_iff {cs : List Char} : readNat? cs = some n ↔
    cs ≠ [] ∧ (∀ c ∈ cs, c.isDigit = true) ∧ Nat.ofDigitChars 10 cs 0 = n := by
  constructor
  · intro h
    have hdigits : cs ≠ [] ∧ ∀ c ∈ cs, c.isDigit = true := by
      unfold readNat? at h
      split at h
      · cases h
      · next hguard => simpa using hguard
    rw [readNat?_of_isDigit hdigits.1 hdigits.2] at h
    exact ⟨hdigits.1, hdigits.2, Option.some.inj h⟩
  · rintro ⟨hne, hdigits, rfl⟩
    exact readNat?_of_isDigit hne hdigits

lemma readNat?_natDigits (n : Nat) : readNat? (natDigits n) = some n := by
  rw [readNat?_of_isDigit (natDigits_ne_nil n) fun c hc => isDigit_of_mem_natDigits hc]
  unfold natDigits
  rw [Nat.ofDigitChars_ten_toDigits]

/-! ## Signs -/

/-- Digits have no sign in front. -/
lemma splitSign_of_isDigit {cs : List Char} (hcs : ∀ c ∈ cs.head?, c.isDigit = true) :
    splitSign cs = (false, cs) := by
  unfold splitSign
  split
  · exact absurd (hcs '-' rfl) (by decide)
  · exact absurd (hcs '+' rfl) (by decide)
  · rfl

lemma splitSign_natDigits (n : Nat) : splitSign (natDigits n) = (false, natDigits n) := by
  apply splitSign_of_isDigit
  intro c hc
  exact isDigit_of_mem_natDigits (List.mem_of_mem_head? hc)

/-! ## Integers -/

/-- An integer of sixty-four bits is read back from its text. -/
lemma readInt?_intText {n : Int} (hmin : minInt64 ≤ n) (hmax : n ≤ maxInt64) :
    readInt? (intText n) = some n := by
  cases n with
  | ofNat m =>
    have hrange : minInt64 ≤ (m : Int) ∧ (m : Int) ≤ maxInt64 := ⟨hmin, hmax⟩
    simp [readInt?, intText, splitSign_natDigits, readNat?_natDigits, hrange]
  | negSucc m =>
    have hrange : minInt64 ≤ -((m + 1 : Nat) : Int) ∧ -((m + 1 : Nat) : Int) ≤ maxInt64 :=
      ⟨hmin, hmax⟩
    have hsign : splitSign ('-' :: natDigits (m + 1)) = (true, natDigits (m + 1)) := rfl
    simp only [readInt?, intText, String.toList_ofList, hsign, readNat?_natDigits, if_true]
    rw [if_pos hrange]
    rfl

/-- An integer that was read has sixty-four bits. -/
lemma range_of_readInt? {s : String} {n : Int} (h : readInt? s = some n) :
    minInt64 ≤ n ∧ n ≤ maxInt64 := by
  unfold readInt? at h
  dsimp only at h
  cases hdigits : readNat? (splitSign s.toList).2 with
  | none => simp [hdigits] at h
  | some m =>
    simp only [hdigits, Option.ite_none_right_eq_some, Option.some.injEq] at h
    obtain ⟨hrange, rfl⟩ := h
    exact hrange

/-! ## Characters -/

lemma mem_intText {n : Int} (hc : c ∈ (intText n).toList) : c.isDigit = true ∨ c = '-' := by
  unfold intText at hc
  split at hc
  · rw [String.toList_ofList] at hc
    exact Or.inl (isDigit_of_mem_natDigits hc)
  · rw [String.toList_ofList, List.mem_cons] at hc
    rcases hc with rfl | hc
    · exact Or.inr rfl
    · exact Or.inl (isDigit_of_mem_natDigits hc)

lemma intText_ne_empty (n : Int) : (intText n).toList ≠ [] := by
  unfold intText
  split
  · rw [String.toList_ofList]
    exact natDigits_ne_nil _
  · simp

lemma isDigit_of_mem_zeros (hc : c ∈ zeros n) : c.isDigit = true := by
  rw [List.eq_of_mem_replicate hc]
  decide

lemma mem_positional {d : Scaled} (hc : c ∈ d.positional) : c.isDigit = true ∨ c = '.' := by
  unfold Scaled.positional at hc
  dsimp only at hc
  split at hc
  · rcases List.mem_append.mp hc with hc | hc
    · exact Or.inl (isDigit_of_mem_natDigits hc)
    · exact Or.inl (isDigit_of_mem_zeros hc)
  · split at hc
    · rcases List.mem_append.mp hc with hc | hc
      · exact Or.inl (isDigit_of_mem_natDigits (List.mem_of_mem_take hc))
      · rcases List.mem_cons.mp hc with rfl | hc
        · exact Or.inr rfl
        · exact Or.inl (isDigit_of_mem_natDigits (List.mem_of_mem_drop hc))
    · rcases List.mem_append.mp hc with hc | hc
      · rcases List.mem_cons.mp hc with rfl | hc
        · exact Or.inl (by decide)
        · rcases List.mem_cons.mp hc with rfl | hc
          · exact Or.inr rfl
          · exact Or.inl (isDigit_of_mem_zeros hc)
      · exact Or.inl (isDigit_of_mem_natDigits hc)

lemma positional_ne_nil (d : Scaled) : d.positional ≠ [] := by
  unfold Scaled.positional
  dsimp only
  split
  · exact List.append_ne_nil_of_left_ne_nil (natDigits_ne_nil _) _
  · split
    · exact List.append_ne_nil_of_right_ne_nil _ (List.cons_ne_nil _ _)
    · simp

lemma mem_signed {negative : Bool} {text : List Char} (hc : c ∈ (signed negative text).toList) :
    c = '-' ∨ c ∈ text := by
  unfold signed at hc
  rw [String.toList_ofList] at hc
  cases negative with
  | false => exact Or.inr hc
  | true => exact List.mem_cons.mp hc

lemma signed_ne_nil (negative : Bool) {text : List Char} (htext : text ≠ []) :
    (signed negative text).toList ≠ [] := by
  unfold signed
  rw [String.toList_ofList]
  cases negative with
  | false => exact htext
  | true => exact List.cons_ne_nil _ _

/-- A double is written with letters and digits, a minus sign and a point. -/
lemma mem_floatText {x : Float} (hc : c ∈ (floatText x).toList) :
    Text.isAlphanumeric c = true ∨ c = '-' ∨ c = '.' := by
  unfold floatText at hc
  split at hc
  · have hword : "NaN".toList.all Text.isAlphanumeric = true := by
      decide
    exact Or.inl (List.all_eq_true.mp hword c hc)
  · have hword : "inf".toList.all Text.isAlphanumeric = true := by
      decide
    rcases mem_signed hc with rfl | hc
    · exact Or.inr (Or.inl rfl)
    · exact Or.inl (List.all_eq_true.mp hword c hc)
  · split at hc
    · rcases mem_signed hc with rfl | hc
      · exact Or.inr (Or.inl rfl)
      · rw [List.mem_singleton.mp hc]
        exact Or.inl (Text.isAlphanumeric_of_isDigit (by decide))
    · rcases mem_signed hc with rfl | hc
      · exact Or.inr (Or.inl rfl)
      · rcases mem_positional hc with hc | rfl
        · exact Or.inl (Text.isAlphanumeric_of_isDigit hc)
        · exact Or.inr (Or.inr rfl)

lemma floatText_ne_empty (x : Float) : (floatText x).toList ≠ [] := by
  unfold floatText
  split
  · decide
  · exact signed_ne_nil _ (by decide)
  · split
    · exact signed_ne_nil _ (List.cons_ne_nil _ _)
    · exact signed_ne_nil _ (positional_ne_nil _)

end RuleMetrics.Decimal
