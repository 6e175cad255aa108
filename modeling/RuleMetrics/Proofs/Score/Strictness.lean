import RuleMetrics.Proofs.Score.Flagging

/-!
# Stricter selectors

A selector with a limit selects the flagged points that have fewer flagged points above them than
the limit (`Selector.mem_select_iff`).  With a point, a minimum flags all points that rank above it.
So raising the minimum takes away none of the points above one that is still flagged, and brings
none in.  A higher minimum or a lower limit therefore selects no point that was not selected before
(`stricter_selects_less`).
-/

namespace RuleMetrics

variable {points kept : List (DataPoint Float)} {p q : DataPoint Float} {n : ℕ}

/-! ## How many points rank above -/

/-- The number of points that rank above a point. -/
def DataPoint.countAbove (p : DataPoint Float) (points : List (DataPoint Float)) : ℕ :=
  points.countP fun q => decide (q.RanksAbove p)

/-- A point is among the `n` best if fewer than `n` points rank above it. -/
lemma KeepsBest.mem_iff (h : KeepsBest n points kept) (hnodup : points.Nodup) (hp : p ∈ points) :
    p ∈ kept ↔ p.countAbove points < n := by
  have hlength := h.length_eq
  unfold DataPoint.countAbove
  rw [List.countP_eq_length_filter]
  constructor
  · intro hkept
    -- Whatever ranks above a point that is kept is kept along with it.
    have habove : (p :: points.filter fun q => decide (q.RanksAbove p)) ⊆ kept := by
      rw [List.cons_subset]
      refine ⟨hkept, fun q hq => ?_⟩
      rw [List.mem_filter, decide_eq_true_iff] at hq
      by_contra hdropped
      exact hq.2.asymm (h.ranksAbove p hkept q hq.1 hdropped)
    have hnew : p ∉ points.filter fun q => decide (q.RanksAbove p) := by
      rw [List.mem_filter, decide_eq_true_iff]
      exact fun hself => hself.2.asymm hself.2
    have hle := (List.subperm_of_subset ((hnodup.filter _).cons hnew) habove).length_le
    rw [List.length_cons] at hle
    omega
  · intro hfew
    by_contra hdropped
    have hkept : kept ⊆ points.filter fun q => decide (q.RanksAbove p) := by
      intro q hq
      rw [List.mem_filter, decide_eq_true_iff]
      exact ⟨h.sublist.subset hq, h.ranksAbove q hq p hp hdropped⟩
    have hall : (p :: kept) ⊆ points := List.cons_subset.mpr ⟨hp, h.sublist.subset⟩
    have hle := (List.subperm_of_subset (hnodup.sublist h.sublist) hkept).length_le
    have hlt := (List.subperm_of_subset ((hnodup.sublist h.sublist).cons hdropped) hall).length_le
    rw [List.length_cons] at hlt
    omega

/-- A point is selected if it is flagged and fewer flagged points than the limit rank above it. -/
lemma Selector.mem_select_iff (policy : Policy Float) (k : Option ℕ)
    (hdistinct : (points.map DataPoint.sequence).Nodup) :
    p ∈ Selector.select ⟨policy, k⟩ points ↔ p ∈ policy.flagged points ∧
      ∀ n ∈ k, p.countAbove (policy.flagged points) < n := by
  have hflagged : ((policy.flagged points).map DataPoint.sequence).Nodup :=
    hdistinct.sublist ((policy.flagged_sublist points).map DataPoint.sequence)
  cases k with
  | none => simp [Selector.select_none]
  | some n =>
    obtain ⟨best, rest, hsplit, hselect⟩ := Selector.select_top_eq_filter policy n points
    have hbest := hsplit.keepsBest_filter hflagged
    rw [← hselect] at hbest
    simp only [Option.mem_some_iff, forall_eq']
    constructor
    · intro hp
      have hmem : p ∈ policy.flagged points := hbest.sublist.subset hp
      exact ⟨hmem, (hbest.mem_iff hflagged.of_map hmem).mp hp⟩
    · rintro ⟨hmem, hfew⟩
      exact (hbest.mem_iff hflagged.of_map hmem).mpr hfew

/-! ## Two minimums -/

section Minimum

variable {m m' : Float}

lemma Policy.flagged_minimum (m : Float) (points : List (DataPoint Float)) :
    (Policy.minimum m).flagged points =
      points.filter fun p => Decimal.atMost m p.score && p.isUsable :=
  Policy.flagged_of_test? rfl

lemma Policy.mem_flagged_minimum_iff : p ∈ (Policy.minimum m).flagged points ↔
    p ∈ points ∧ Decimal.atMost m p.score = true ∧ p.isUsable = true := by
  rw [Policy.flagged_minimum, List.mem_filter, Bool.and_eq_true]

/-- A usable point that ranks above another has no lower score. -/
lemma DataPoint.RanksAbove.atMost (h : q.RanksAbove p) (hp : p.isUsable = true)
    (hq : q.isUsable = true) : Decimal.atMost p.score q.score = true := by
  obtain ⟨a, ha, -⟩ := Decimal.usable_iff.mp hp
  obtain ⟨b, hb, -⟩ := Decimal.usable_iff.mp hq
  have hkey : Decimal.totalKey p.score ≤ Decimal.totalKey q.score := by
    rcases h with hlt | ⟨heq, -⟩
    · exact hlt.le
    · exact heq.ge
  rw [Decimal.atMost_eq_true_iff]
  exact ⟨Decimal.isNaN_of_number? ha, Decimal.isNaN_of_number? hb,
    Decimal.numericKey_le_of_totalKey_le hkey⟩

/-- Usable points above a point that reaches a minimum reach it too, so no other minimum flags more
of them. -/
lemma DataPoint.countAbove_flagged_le (hp : p ∈ (Policy.minimum m').flagged points) :
    p.countAbove ((Policy.minimum m).flagged points) ≤
      p.countAbove ((Policy.minimum m').flagged points) := by
  obtain ⟨-, hreached, hpusable⟩ := Policy.mem_flagged_minimum_iff.mp hp
  unfold DataPoint.countAbove
  rw [Policy.flagged_minimum, Policy.flagged_minimum, List.countP_filter, List.countP_filter]
  apply List.countP_mono_left
  intro q _ hq
  simp only [Bool.and_eq_true, decide_eq_true_iff] at hq ⊢
  obtain ⟨habove, -, hqusable⟩ := hq
  have hle : Decimal.atMost p.score q.score = true := habove.atMost hpusable hqusable
  exact ⟨habove, Decimal.atMost_trans hreached hle, hqusable⟩

end Minimum

/-- **Stricter selectors select less.**  If no two points have the same sequence, every point that
is selected with a minimum `m'` and a limit `k` is selected with a minimum `m ≤ m'` and a limit `k'`
that is no lower than `k`. -/
theorem stricter_selects_less (hdistinct : (points.map DataPoint.sequence).Nodup) {m m' : Float}
    (hminimum : Decimal.atMost m m' = true) {k k' : Option ℕ}
    (hlimit : ∀ n' ∈ k', ∃ n ∈ k, n ≤ n') :
    Selector.select ⟨.minimum m', k⟩ points ⊆ Selector.select ⟨.minimum m, k'⟩ points := by
  intro p hp
  rw [Selector.mem_select_iff _ _ hdistinct] at hp ⊢
  obtain ⟨hflagged, hfew⟩ := hp
  obtain ⟨hmem, hreached, husable⟩ := Policy.mem_flagged_minimum_iff.mp hflagged
  refine ⟨Policy.mem_flagged_minimum_iff.mpr
    ⟨hmem, Decimal.atMost_trans hminimum hreached, husable⟩, ?_⟩
  intro n' hn'
  obtain ⟨n, hn, hle⟩ := hlimit n' hn'
  calc p.countAbove ((Policy.minimum m).flagged points)
      ≤ p.countAbove ((Policy.minimum m').flagged points) :=
        DataPoint.countAbove_flagged_le hflagged
    _ < n := hfew n hn
    _ ≤ n' := hle

theorem stricter_selects_less_of_samplePoints :
    (samplePoints.map DataPoint.sequence).Nodup ∧
      Selector.select ⟨.minimum (Decimal.floatOfNat 5), some 1⟩ samplePoints =
        [⟨10, Decimal.floatOfNat 9, 1⟩] ∧
      ⟨10, Decimal.floatOfNat 9, 1⟩ ∈
        Selector.select ⟨.minimum (Decimal.floatOfNat 4), some 2⟩ samplePoints := by
  have hdistinct : (samplePoints.map DataPoint.sequence).Nodup := nodup_sequence_recorded _
  have hstrict : Selector.select ⟨.minimum (Decimal.floatOfNat 5), some 1⟩ samplePoints =
      [⟨10, Decimal.floatOfNat 9, 1⟩] := rfl
  have hminimum : Decimal.atMost (Decimal.floatOfNat 4) (Decimal.floatOfNat 5) = true := by
    decide +kernel
  have hless : Selector.select ⟨.minimum (Decimal.floatOfNat 5), some 1⟩ samplePoints ⊆
      Selector.select ⟨.minimum (Decimal.floatOfNat 4), some 2⟩ samplePoints :=
    stricter_selects_less hdistinct hminimum (by simp)
  exact ⟨hdistinct, hstrict, hless (hstrict ▸ List.mem_singleton_self _)⟩

end RuleMetrics
