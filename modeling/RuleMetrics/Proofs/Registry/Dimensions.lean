import Mathlib.Logic.Function.Iterate
import RuleMetrics.Proofs.Registry.Usage

/-!
# Counting dimensions

A usage is read in turns.  Each turn takes one pair of brackets off the end, with the blanks before
it, and counts it (`BracketLoop.turn`).  The counter has eight bits, and a pair that does not fit
ends the loop, so the counter always says how many pairs were taken off, and there are no more than
256 turns (`HasParts.iterate_turn`).

How a text is to be read is said without the loop.  It has a base and a number of pairs in one way
only (`HasParts`), and these decide the answer: too many pairs come before a missing base, and a
missing base before an unknown one (`dimensions_counted`).
-/

namespace RuleMetrics.TypeUsage

open Text

variable {cs left base : List Char} {count : UInt8} {n k : ℕ} {text : String}

/-! ## Parts -/

/-- Without the blanks around it, the text is a base and `k` pairs of brackets. -/
structure HasParts (text : String) (base : List Char) (k : ℕ) : Prop where
  bracketed : Bracketed base k (trimChars text.toList)
  isBase : IsBase base

lemma hasParts_iff : HasParts text base k ↔ split text.toList = (base, k) := by
  rw [split_eq_iff]
  exact ⟨fun h => ⟨h.bracketed, h.isBase⟩, fun h => ⟨h.1, h.2⟩⟩

/-- Every text has parts, and has them in one way only. -/
lemma existsUnique_hasParts (text : String) :
    ∃! parts : List Char × ℕ, HasParts text parts.1 parts.2 :=
  ⟨split text.toList, hasParts_iff.mpr rfl, fun _ h => (hasParts_iff.mp h).symm⟩

/-! ## The loop -/

/-- The text without a pair of brackets at its end and the blanks before the pair. -/
def withoutPair? (cs : List Char) : Option (List Char) :=
  match cs.reverse with
  | ']' :: '[' :: rest => some (trimEndChars rest.reverse)
  | _ => none

/-- One more, unless the counter is full. -/
def oneMore? (count : UInt8) : Option UInt8 :=
  if count = 255 then none else some (count + 1)

/-- Where the loop is. -/
inductive BracketLoop where
  /-- So many pairs were taken off, and this is left. -/
  | running (left : List Char) (count : UInt8)
  /-- There is no further pair. -/
  | finished (base : List Char) (count : UInt8)
  /-- There is a further pair, and the counter is full. -/
  | full

namespace BracketLoop

/-- The loop starts with the trimmed text. -/
def start (text : String) : BracketLoop :=
  running (trimChars text.toList) 0

/-- One turn of the loop. -/
def turn : BracketLoop → BracketLoop
  | running left count =>
    match withoutPair? left with
    | none => finished left count
    | some rest =>
      match oneMore? count with
      | none => full
      | some count' => running rest count'
  | finished base count => finished base count
  | full => full

/-- What is answered when the loop has come to an end. -/
def answer? (lookup : String → Option TypeId) (text : String) :
    BracketLoop → Option (Except ReadError TypeUsage)
  | running _ _ => none
  | full => some (.error (.invalidFormat text .tooManyDimensions))
  | finished base count =>
    if base = [] then some (.error (.invalidFormat text .emptyTypeName))
    else
      match lookup (String.ofList base) with
      | none => some (.error (.unknownType (String.ofList base)))
      | some id => some (.ok ⟨id, count.toNat⟩)

end BracketLoop

/-! ## One turn -/

lemma withoutPair?_append_pair (cs : List Char) :
    withoutPair? (cs ++ ['[', ']']) = some (trimEndChars cs) := by
  simp [withoutPair?]

lemma withoutPair?_eq_none (htrimmed : Trimmed cs) (hpairs : (split cs).2 = 0) :
    withoutPair? cs = none := by
  have hnone := split_pairs_eq_zero_iff.mp hpairs
  rw [htrimmed.trimChars_eq] at hnone
  unfold withoutPair?
  split
  · next rest hrest =>
    refine absurd ⟨rest.reverse, ?_⟩ hnone
    rw [← List.reverse_reverse cs, hrest]
    simp
  · rfl

/-- A pair is taken off a trimmed text that has one, and what is left is trimmed. -/
lemma exists_withoutPair? (htrimmed : Trimmed cs) (hpairs : (split cs).2 ≠ 0) :
    ∃ rest, withoutPair? cs = some rest ∧ Trimmed rest ∧ Bracketed rest 1 cs := by
  obtain ⟨before, rfl⟩ : ['[', ']'] <:+ cs := by
    by_contra hnone
    rw [← htrimmed.trimChars_eq] at hnone
    exact hpairs (split_pairs_eq_zero_iff.mpr hnone)
  have hhead : ∀ c ∈ before.head?, isBlank c = false := by
    intro c hc
    apply htrimmed.head
    rw [List.head?_append, Option.mem_def.mp hc]
    rfl
  have hrest : trimEndChars before = trimChars before := by
    rw [trimChars, trimStartChars_eq_self hhead]
  obtain ⟨blanks, hblanks, hbefore⟩ := eq_append_trimEndChars before
  refine ⟨trimEndChars before, withoutPair?_append_pair before, ?_, ?_⟩
  · rw [hrest]
    exact trimmed_trimChars before
  · have hone : Bracketed (trimEndChars before) 1
        (trimEndChars before ++ blanks ++ ['[', ']']) := .pair .base hblanks
    rwa [← hbefore] at hone

/-- The counter does not wrap. -/
lemma exists_oneMore? (h : count.toNat < 255) :
    ∃ count', oneMore? count = some count' ∧ count'.toNat = count.toNat + 1 := by
  have hne : count ≠ 255 := by
    rintro rfl
    exact absurd h (by decide)
  -- Eight bits are added modulo 256, and the sum is less.
  have hadd : (count + 1).toNat = (count.toNat + 1) % 256 := UInt8.toNat_add count 1
  refine ⟨count + 1, if_neg hne, ?_⟩
  omega

lemma oneMore?_of_full (h : count.toNat = 255) : oneMore? count = none :=
  if_pos (UInt8.toNat_inj.mp h)

/-! ## All turns -/

/-- What the pairs that are left and those that were taken off amount to. -/
lemma HasParts.split_left (h : HasParts text base k)
    (hleft : Bracketed left n (trimChars text.toList)) :
    (split left).1 = base ∧ (split left).2 + n = k := by
  have hsplit := hleft.split_left
  rw [split_trimChars, hasParts_iff.mp h, Prod.mk.injEq] at hsplit
  exact ⟨hsplit.1.symm, hsplit.2.symm⟩

open BracketLoop

/-- As long as there are pairs and the counter is not full, the loop goes on, and the counter is
the number of pairs that were taken off. -/
lemma HasParts.iterate_turn (h : HasParts text base k) {j : ℕ} (hj : j ≤ min k 255) :
    ∃ left count, turn^[j] (start text) = running left count ∧ count.toNat = j ∧
      Trimmed left ∧ Bracketed left j (trimChars text.toList) := by
  induction j with
  | zero => exact ⟨_, 0, rfl, rfl, trimmed_trimChars text.toList, .base⟩
  | succ j ih =>
    obtain ⟨left, count, hturns, hcount, htrimmed, hleft⟩ := ih (by omega)
    -- Of the `k` pairs only `j` were taken off, so another one is at the end of what is left.
    have hpairs := (h.split_left hleft).2
    obtain ⟨rest, hrest, htrimmed', hone⟩ := exists_withoutPair? htrimmed (by omega)
    obtain ⟨count', hmore, hcount'⟩ := exists_oneMore? (by omega : count.toNat < 255)
    refine ⟨rest, count', ?_, by omega, htrimmed', ?_⟩
    · rw [Function.iterate_succ_apply', hturns]
      simp only [turn, hrest, hmore]
    · rw [Nat.add_comm]
      exact hone.trans hleft

/-! ## Answers -/

variable {lookup : String → Option TypeId} {id : TypeId}

lemma HasParts.hasName (h : HasParts text base k) (hfew : k ≤ 255) (hne : base ≠ []) :
    HasName text := by
  unfold HasName
  rw [hasParts_iff.mp h]
  exact ⟨hfew, hne⟩

lemma HasParts.read_of_many (h : HasParts text base k) (hmany : 255 < k) :
    read lookup text = .error (.invalidFormat text .tooManyDimensions) := by
  unfold read
  rw [hasParts_iff.mp h]
  exact if_pos hmany

lemma HasParts.read_of_nil (h : HasParts text base k) (hfew : k ≤ 255) (hbase : base = []) :
    read lookup text = .error (.invalidFormat text .emptyTypeName) := by
  unfold read
  rw [hasParts_iff.mp h]
  exact (if_neg (not_lt.mpr hfew)).trans (if_pos hbase)

lemma HasParts.read_of_none (h : HasParts text base k) (hfew : k ≤ 255) (hne : base ≠ [])
    (hlookup : lookup (String.ofList base) = none) :
    read lookup text = .error (.unknownType (String.ofList base)) := by
  have hsplit := hasParts_iff.mp h
  have hnone : lookup (String.ofList (split text.toList).1) = none := by
    rw [hsplit, hlookup]
  rw [(h.hasName hfew hne).read_of_none hnone, hsplit]

lemma HasParts.read_of_some (h : HasParts text base k) (hfew : k ≤ 255) (hne : base ≠ [])
    (hlookup : lookup (String.ofList base) = some id) : read lookup text = .ok ⟨id, k⟩ := by
  have hsplit := hasParts_iff.mp h
  have hsome : lookup (String.ofList (split text.toList).1) = some id := by
    rw [hsplit, hlookup]
  rw [(h.hasName hfew hne).read_of_some hsome, hsplit]

/-- With few pairs the loop ends at the base. -/
lemma HasParts.turn_of_few (h : HasParts text base k) (hfew : k ≤ 255) :
    ∃ count, turn^[k + 1] (start text) = finished base count ∧ count.toNat = k := by
  obtain ⟨left, count, hturns, hcount, htrimmed, hleft⟩ := h.iterate_turn (by omega : k ≤ min k 255)
  obtain ⟨hbase, hpairs⟩ := h.split_left hleft
  have hzero : (split left).2 = 0 := by omega
  rw [split_of_no_pair (split_pairs_eq_zero_iff.mp hzero), htrimmed.trimChars_eq] at hbase
  refine ⟨count, ?_, hcount⟩
  rw [Function.iterate_succ_apply', hturns, ← hbase]
  simp only [turn, withoutPair?_eq_none htrimmed hzero]

/-- With many pairs the loop ends at the one that the counter has no room for. -/
lemma HasParts.turn_of_many (h : HasParts text base k) (hmany : 255 < k) :
    turn^[255 + 1] (start text) = full := by
  obtain ⟨left, count, hturns, hcount, htrimmed, hleft⟩ :=
    h.iterate_turn (by omega : 255 ≤ min k 255)
  have hpairs := (h.split_left hleft).2
  obtain ⟨rest, hrest, -, -⟩ := exists_withoutPair? htrimmed (by omega)
  rw [Function.iterate_succ_apply', hturns]
  simp only [turn, hrest, oneMore?_of_full hcount]

/-- The loop comes to the answer of the reader. -/
lemma HasParts.answer?_eq (h : HasParts text base k) (lookup : String → Option TypeId) :
    (turn^[min k 255 + 1] (start text)).answer? lookup text = some (read lookup text) := by
  by_cases hfew : k ≤ 255
  · obtain ⟨count, hturns, hcount⟩ := h.turn_of_few hfew
    rw [min_eq_left hfew, hturns, answer?]
    by_cases hbase : base = []
    · rw [if_pos hbase, h.read_of_nil hfew hbase]
    · rw [if_neg hbase]
      cases hlookup : lookup (String.ofList base) with
      | none => rw [h.read_of_none hfew hbase hlookup]
      | some id => rw [h.read_of_some hfew hbase hlookup, hcount]
  · have hmany : 255 < k := by omega
    rw [min_eq_right hmany.le, h.turn_of_many hmany, answer?, h.read_of_many hmany]

/-- **Counting dimensions.**  Every text has a base and a number of pairs of brackets in one way
only.  It is rejected for its format if there are more than 255 pairs or the base is empty,
otherwise for the base if that has no meaning, and read as the type of the base with as many
dimensions otherwise.  The loop that finds this out takes one pair off in each turn and stops after
256 turns at the latest, and at every turn its eight bits hold the number of pairs taken off. -/
theorem dimensions_counted (lookup : String → Option TypeId) (text : String) :
    (∃! parts : List Char × ℕ, HasParts text parts.1 parts.2) ∧
    ∀ base k, HasParts text base k →
      (255 < k → read lookup text = .error (.invalidFormat text .tooManyDimensions)) ∧
      (k ≤ 255 → base = [] → read lookup text = .error (.invalidFormat text .emptyTypeName)) ∧
      (k ≤ 255 → base ≠ [] → lookup (String.ofList base) = none →
        read lookup text = .error (.unknownType (String.ofList base))) ∧
      (∀ id, k ≤ 255 → base ≠ [] → lookup (String.ofList base) = some id →
        read lookup text = .ok ⟨id, k⟩) ∧
      (∀ j ≤ min k 255, ∃ left count, turn^[j] (start text) = running left count ∧
        count.toNat = j ∧ Bracketed left j (trimChars text.toList)) ∧
      (turn^[min k 255 + 1] (start text)).answer? lookup text = some (read lookup text) := by
  refine ⟨existsUnique_hasParts text, fun base k h => ⟨h.read_of_many, h.read_of_nil,
    h.read_of_none, fun id => h.read_of_some, ?_, h.answer?_eq lookup⟩⟩
  intro j hj
  obtain ⟨left, count, hturns, hcount, -, hleft⟩ := h.iterate_turn hj
  exact ⟨left, count, hturns, hcount, hleft⟩

/-- A table with one name. -/
def lookupOne (name : String) : Option TypeId :=
  if name = "int" then some ⟨0⟩ else none

/-- An array of `int` of many dimensions. -/
def nestedArray (k : ℕ) : String :=
  String.ofList ("int".toList ++ (List.replicate k ['[', ']']).flatten)

lemma hasParts_nestedArray (k : ℕ) : HasParts (nestedArray k) "int".toList k := by
  have hbase : IsBase "int".toList := by
    refine ⟨⟨?_, ?_⟩, by decide⟩
    · rintro c ⟨⟩
      decide
    · rintro c ⟨⟩
      decide
  have htext : (nestedArray k).toList =
      "int".toList ++ (List.replicate k ['[', ']']).flatten := String.toList_ofList
  rw [hasParts_iff, htext, split_append_replicate, hbase.split_eq, Nat.zero_add]

/-- The 256th pair is one too many. -/
theorem dimensions_counted_of_nestedArray :
    read lookupOne (nestedArray 255) = .ok ⟨⟨0⟩, 255⟩ ∧
      read lookupOne (nestedArray 256) =
        .error (.invalidFormat (nestedArray 256) .tooManyDimensions) := by
  obtain ⟨-, -, -, hread, -⟩ :=
    (dimensions_counted lookupOne (nestedArray 255)).2 _ _ (hasParts_nestedArray 255)
  obtain ⟨hmany, -⟩ :=
    (dimensions_counted lookupOne (nestedArray 256)).2 _ _ (hasParts_nestedArray 256)
  exact ⟨hread ⟨0⟩ (by decide) (by decide) (by decide), hmany (by decide)⟩

end RuleMetrics.TypeUsage
