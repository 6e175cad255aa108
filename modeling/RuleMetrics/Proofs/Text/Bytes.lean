import Mathlib.Data.String.Basic
import Mathlib.Tactic.SplitIfs

/-!
# The order of bytes

Texts are ordered by their characters, and characters by their code points.  A text of more bytes
need not be the greater one.  Still the order is that of the bytes in which texts are encoded
(`lt_iff_bytes_lt`), because the encoding of a character is less, at the first byte where they
differ, than the encoding of every greater character (`encoded_append_lt`).
-/

namespace RuleMetrics.Text

/-- The bytes of a text. -/
def bytes (s : String) : List UInt8 :=
  s.toByteArray.data.toList

/-- The bytes of a text are those of its characters. -/
lemma bytes_eq_flatMap (s : String) : bytes s = s.toList.flatMap String.utf8EncodeChar := by
  unfold bytes
  conv_lhs => rw [← String.ofList_toList (s := s), String.toByteArray_ofList]
  exact List.toList_data_toByteArray

/-- A code point is cut into its last six bits and the rest, and the rest again. -/
lemma div_sixBits (n : Nat) : n / 64 / 64 = n / 4096 ∧ n / 4096 / 64 = n / 262144 :=
  ⟨Nat.div_div_eq_div_mul n 64 64, Nat.div_div_eq_div_mul n 4096 64⟩

/-- The encoding of a lesser character is less, whatever follows.  Each byte holds a part of the
code point, the leading part first, and a longer encoding starts with a greater byte. -/
lemma encoded_append_lt {c d : Char} (h : c < d) (cs ds : List UInt8) :
    String.utf8EncodeChar c ++ cs < String.utf8EncodeChar d ++ ds := by
  have hlt : c.val.toNat < d.val.toNat := UInt32.lt_iff_toNat_lt.mp h
  have hbound : d.val.toNat < 0x110000 := by
    rcases d.valid with hd | hd
    · omega
    · omega
  obtain ⟨hc, hc'⟩ := div_sixBits c.val.toNat
  obtain ⟨hd, hd'⟩ := div_sixBits d.val.toNat
  unfold String.utf8EncodeChar
  simp only
  -- In each case the two lengths are known, and the bytes are compared one after the other.
  split_ifs <;>
    simp only [List.cons_append, List.nil_append, List.cons_lt_cons_iff, UInt8.lt_iff_toNat_lt,
      ← UInt8.toNat_inj, UInt8.toNat_ofNat'] <;>
    simp (disch := omega) only [Nat.mod_eq_of_lt] <;>
    omega

/-- Lesser texts have lesser bytes. -/
lemma bytes_lt_bytes {s t : String} (h : s < t) : bytes s < bytes t := by
  rw [bytes_eq_flatMap, bytes_eq_flatMap]
  have hlex : List.Lex (· < ·) s.toList t.toList := h
  generalize s.toList = cs at hlex
  generalize t.toList = ds at hlex
  induction hlex with
  | @nil d ds =>
    rw [List.flatMap_nil, List.flatMap_cons]
    cases hd : String.utf8EncodeChar d with
    | nil => exact absurd hd String.utf8EncodeChar_ne_nil
    | cons b bs => exact List.nil_lt_cons _ _
  | rel hlt =>
    rw [List.flatMap_cons, List.flatMap_cons]
    exact encoded_append_lt hlt _ _
  | cons _ ih =>
    rw [List.flatMap_cons, List.flatMap_cons]
    exact List.append_left_lt ih

/-- Texts are in the order of their bytes. -/
lemma lt_iff_bytes_lt {s t : String} : s < t ↔ bytes s < bytes t := by
  refine ⟨bytes_lt_bytes, fun h => ?_⟩
  rcases lt_trichotomy s t with hlt | rfl | hgt
  · exact hlt
  · exact absurd h (List.lt_irrefl _)
  · exact absurd (bytes_lt_bytes hgt) (List.lt_asymm h)

end RuleMetrics.Text
