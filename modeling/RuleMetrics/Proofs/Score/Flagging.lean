import RuleMetrics.Proofs.Decimal.Order
import RuleMetrics.Proofs.Score.TopLimit

/-!
# Flagged points

A point takes part in selection if its score is a number that is not negative (`DataPoint.number?`).
The others have no influence: a policy computes its threshold from the points that take part and
puts it to these only, so selecting gives the same when the others are left out, or when more of
them stand anywhere in between (`unusable_points_ignored`).

A policy flags from some number upwards.  Which number that is depends on the points if it is found
from their mean and deviation, and it is nowhere computed here.  It is enough that each test that a
policy puts to scores is passed by every score that is not below one that passes
(`Policy.test_of_atMost`).
-/

namespace RuleMetrics

/-! ## Points without influence -/

section Usable

variable {α : Type} [ScoreNumber α]

/-- Points that take no part are not seen by a policy. -/
lemma Policy.flagged_filter_isUsable (policy : Policy α) (points : List (DataPoint α)) :
    policy.flagged (points.filter DataPoint.isUsable) = policy.flagged points := by
  unfold flagged
  simp only [List.filter_filter, Bool.and_self]

lemma Selector.select_filter_isUsable (s : Selector α) (points : List (DataPoint α)) :
    s.select (points.filter DataPoint.isUsable) = s.select points := by
  unfold select
  rw [Policy.flagged_filter_isUsable]

/-- Points that take no part can stand anywhere. -/
lemma Selector.select_insert (s : Selector α) (before after : List (DataPoint α))
    {extra : List (DataPoint α)} (hextra : ∀ p ∈ extra, p.isUsable = false) :
    s.select (before ++ extra ++ after) = s.select (before ++ after) := by
  have hnone : extra.filter DataPoint.isUsable = [] := by
    rw [List.filter_eq_nil_iff]
    intro p hp
    rw [hextra p hp]
    exact Bool.false_ne_true
  have hsame : (before ++ extra ++ after).filter DataPoint.isUsable =
      (before ++ after).filter DataPoint.isUsable := by
    rw [List.filter_append, List.filter_append, hnone, List.append_nil, List.filter_append]
  rw [← select_filter_isUsable, hsame, select_filter_isUsable]

end Usable

/-! ## Points with influence -/

section Number

variable {p q : DataPoint Float} {a b : ℚ}

/-- The number that the score of a point is, if it takes part in selection: none for NaN, for an
infinite score and for a negative one. -/
def DataPoint.number? (p : DataPoint Float) : Option ℚ :=
  (Decimal.Double.ofFloat p.score).number?.filter fun a => decide (0 ≤ a)

lemma DataPoint.number?_eq_some_iff :
    p.number? = some a ↔ (Decimal.Double.ofFloat p.score).number? = some a ∧ 0 ≤ a := by
  unfold number?
  rw [Option.filter_eq_some_iff, decide_eq_true_iff]

lemma DataPoint.isUsable_eq_isSome (p : DataPoint Float) : p.isUsable = p.number?.isSome := by
  rw [Bool.eq_iff_iff, Option.isSome_iff_exists, isUsable, Decimal.usable_iff]
  simp only [number?_eq_some_iff]

lemma DataPoint.atMost_of_number?_le (hp : p.number? = some a) (hq : q.number? = some b)
    (hle : a ≤ b) : Decimal.atMost p.score q.score = true :=
  (Decimal.atMost_iff_le (number?_eq_some_iff.mp hp).1 (number?_eq_some_iff.mp hq).1).mpr hle

/-- A score that is not below one that passes the test of a policy passes it too. -/
lemma Policy.test_of_atMost {policy : Policy Float} {scores : List Float} {test : Float → Bool}
    (htest : policy.test? scores = some test) {x y : Float} (hxy : Decimal.atMost x y = true)
    (hx : test x = true) : test y = true := by
  cases policy with
  | minimum threshold =>
    obtain rfl := Option.some.inj htest
    exact Decimal.atMost_trans hx hxy
  | sigma deviations =>
    obtain ⟨⟨mean, deviation⟩, -, rfl⟩ := Option.map_eq_some_iff.mp htest
    exact Decimal.below_of_below_of_atMost hx hxy

lemma Policy.flagged_of_test? {policy : Policy Float} {points : List (DataPoint Float)}
    {test : Float → Bool}
    (htest : policy.test? ((points.filter DataPoint.isUsable).map DataPoint.score) = some test) :
    policy.flagged points = points.filter fun p => test p.score && p.isUsable := by
  unfold flagged
  dsimp only
  rw [htest]
  exact List.filter_filter

/-- A policy flags the points whose numbers are in a set that has with a number all greater ones. -/
lemma Policy.exists_flags (policy : Policy Float) (points : List (DataPoint Float)) :
    ∃ flags : ℚ → Bool, Monotone flags ∧
      policy.flagged points = points.filter fun p => p.number?.any flags := by
  classical
  cases htest : policy.test? ((points.filter DataPoint.isUsable).map DataPoint.score) with
  | none =>
    refine ⟨fun _ => false, monotone_const, ?_⟩
    have hnone : policy.flagged points = [] := by
      unfold flagged
      dsimp only
      rw [htest]
    have hany : (fun p : DataPoint Float => p.number?.any fun _ => false) = fun _ => false := by
      funext p
      cases p.number? with
      | none => rfl
      | some a => rfl
    rw [hnone, hany, List.filter_false]
  | some test =>
    -- A number is flagged if it is not below the number of some flagged point.
    refine ⟨fun a => decide (∃ p ∈ points, test p.score = true ∧ ∃ b ∈ p.number?, b ≤ a), ?_, ?_⟩
    · intro a a' hle
      rw [Bool.le_iff_imp, decide_eq_true_iff, decide_eq_true_iff]
      rintro ⟨p, hp, hflagged, b, hb, hba⟩
      exact ⟨p, hp, hflagged, b, hb, hba.trans hle⟩
    · rw [flagged_of_test? htest]
      apply List.filter_congr
      intro p hp
      rw [p.isUsable_eq_isSome]
      cases hnumber : p.number? with
      | none => simp
      | some a =>
        rw [Option.isSome_some, Bool.and_true, Option.any_some, Bool.eq_iff_iff,
          decide_eq_true_iff]
        constructor
        · intro hflagged
          exact ⟨p, hp, hflagged, a, hnumber, le_rfl⟩
        · rintro ⟨q, -, hflagged, b, hb, hba⟩
          exact test_of_atMost htest (DataPoint.atMost_of_number?_le hb hnumber hba) hflagged

end Number

/-! ## Selection -/

/-- **Only usable points count.**  A selector selects the same from the usable points alone, and the
same if points whose scores are NaN, infinite or negative are put anywhere between the others.
Without a limit it selects, in order, all points with a number in some set that has with a number
all greater ones. -/
theorem unusable_points_ignored (s : Selector Float) :
    (∀ points, s.select (points.filter DataPoint.isUsable) = s.select points) ∧
    (∀ before extra after : List (DataPoint Float), (∀ p ∈ extra, p.number? = none) →
      s.select (before ++ extra ++ after) = s.select (before ++ after)) ∧
    ∀ points, ∃ flags : ℚ → Bool, Monotone flags ∧
      Selector.select ⟨s.policy, none⟩ points = points.filter fun p => p.number?.any flags := by
  refine ⟨s.select_filter_isUsable, ?_, s.policy.exists_flags⟩
  intro before extra after hextra
  apply s.select_insert
  intro p hp
  rw [p.isUsable_eq_isSome, hextra p hp]
  rfl

/-- Points whose scores are NaN, infinite and minus one. -/
def unusablePoints : List (DataPoint Float) :=
  [⟨10, Float.ofBits 0x7FF8000000000000, 1⟩, ⟨20, Float.ofBits 0x7FF0000000000000, 2⟩,
    ⟨30, Float.ofBits 0xBFF0000000000000, 3⟩]

theorem unusable_points_ignored_of_unusablePoints :
    (∀ p ∈ unusablePoints, p.number? = none) ∧
      (Selector.select ⟨.sigma (Decimal.floatOfNat 1), some 1⟩
        ([⟨0, Decimal.floatOfNat 10, 0⟩] ++ unusablePoints ++
          [⟨40, Decimal.floatOfNat 50, 4⟩, ⟨50, Decimal.floatOfNat 10, 5⟩])).map
        DataPoint.node = [40] := by
  have hunusable : ∀ p ∈ unusablePoints, p.number? = none := by
    have husable : ∀ p ∈ unusablePoints, p.isUsable = false := by
      decide +kernel
    intro p hp
    rw [← Option.not_isSome_iff_eq_none, ← p.isUsable_eq_isSome, husable p hp]
    exact Bool.false_ne_true
  refine ⟨hunusable, ?_⟩
  rw [(unusable_points_ignored _).2.1 _ _ _ hunusable]
  decide +kernel

end RuleMetrics
