import Mathlib.Data.List.Induction
import Mathlib.Data.List.Nodup
import Mathlib.Data.List.Sort
import Mathlib.Data.Prod.Lex
import RuleMetrics.Score.Selector

/-!
# A limit on the number of points

With a limit, the best-ranked of the flagged points are kept in their own order.  The cut is made by
sequence: the flagged points are ranked, and every one is kept whose sequence is that of one of the
first `n` (`Selector.select_top_eq_filter`).

If no two points have the same sequence, as it is when they were recorded one after the other
(`nodup_sequence_recorded`), this keeps the `n` best points themselves, and nothing else could be
meant by them (`top_limit_keeps_best`).  Otherwise a point that did not make it may share its
sequence with one that did, and is kept along with it.  `length_select_top` says how many such
points there are; with two points of sequence zero a limit of one keeps both
(`top_limit_exceeded`).
-/

namespace RuleMetrics

/-! ## Ranks -/

namespace DataPoint

variable {p q : DataPoint Float}

/-- A point ranks above another by a higher score in the total order of doubles, or by an earlier
sequence if their scores are equal in that order. -/
def RanksAbove (p q : DataPoint Float) : Prop :=
  Decimal.totalKey q.score < Decimal.totalKey p.score ∨
    Decimal.totalKey p.score = Decimal.totalKey q.score ∧ p.sequence < q.sequence

instance : Decidable (p.RanksAbove q) :=
  inferInstanceAs (Decidable (_ ∨ _ ∧ _))

/-- What points are ranked by.  The best point has the least rank. -/
def rank (p : DataPoint Float) : ℤᵒᵈ ×ₗ ℕ :=
  toLex (OrderDual.toDual (Decimal.totalKey p.score), p.sequence)

lemma rank_lt_rank_iff : p.rank < q.rank ↔ p.RanksAbove q := by
  unfold rank RanksAbove
  rw [Prod.Lex.toLex_lt_toLex, OrderDual.toDual_lt_toDual, OrderDual.toDual_inj]

lemma ranksBefore_iff : p.ranksBefore q = true ↔ p.rank ≤ q.rank := by
  unfold rank ranksBefore
  rw [Prod.Lex.toLex_le_toLex, OrderDual.toDual_lt_toDual, OrderDual.toDual_inj]
  simp only [ScoreNumber.outranks, Bool.or_eq_true, Bool.and_eq_true, Bool.not_eq_true',
    decide_eq_true_eq, decide_eq_false_iff_not]
  omega

lemma ranksBefore_trans (p q r : DataPoint Float) (hpq : p.ranksBefore q = true)
    (hqr : q.ranksBefore r = true) : p.ranksBefore r = true := by
  rw [ranksBefore_iff] at hpq hqr ⊢
  exact hpq.trans hqr

lemma ranksBefore_total (p q : DataPoint Float) :
    (p.ranksBefore q || q.ranksBefore p) = true := by
  rw [Bool.or_eq_true, ranksBefore_iff, ranksBefore_iff]
  exact le_total p.rank q.rank

/-- Points of different sequences are never level. -/
lemma ranksAbove_of_not_ranksAbove (hsequence : p.sequence ≠ q.sequence) (h : ¬ q.RanksAbove p) :
    p.RanksAbove q := by
  rw [← rank_lt_rank_iff] at h ⊢
  refine lt_of_le_of_ne (not_lt.mp h) ?_
  intro hrank
  exact hsequence (congrArg (fun r => (ofLex r).2) hrank)

lemma RanksAbove.asymm (h : p.RanksAbove q) : ¬ q.RanksAbove p := by
  rw [← rank_lt_rank_iff] at h ⊢
  exact h.asymm

end DataPoint

/-! ## The best points and the rest -/

section Split

variable {points best rest : List (DataPoint Float)} {n : ℕ}

/-- Points fall into the `n` best, or all if there are not as many, and the rest. -/
structure BestAndRest (n : ℕ) (points best rest : List (DataPoint Float)) : Prop where
  perm : (best ++ rest).Perm points
  length_best : best.length = min n points.length
  not_ranksAbove : ∀ p ∈ best, ∀ q ∈ rest, ¬ q.RanksAbove p

/-- Whether a point has the sequence of one of some points. -/
def sharesSequence (points : List (DataPoint Float)) (p : DataPoint Float) : Bool :=
  (points.map DataPoint.sequence).contains p.sequence

lemma sharesSequence_iff {p : DataPoint Float} :
    sharesSequence points p = true ↔ ∃ q ∈ points, q.sequence = p.sequence := by
  simp [sharesSequence]

lemma sharesSequence_of_mem {p : DataPoint Float} (hp : p ∈ points) :
    sharesSequence points p = true :=
  sharesSequence_iff.mpr ⟨p, hp, rfl⟩

/-- Ranking tells the best from the rest, and those that share a sequence with the best are kept. -/
lemma exists_bestAndRest (n : ℕ) (points : List (DataPoint Float)) :
    ∃ best rest, BestAndRest n points best rest ∧
      keepHighest n points = points.filter (sharesSequence best) := by
  let ranked := points.mergeSort DataPoint.ranksBefore
  have hperm : ranked.Perm points := List.mergeSort_perm points _
  have hpairwise : ranked.Pairwise fun p q => p.ranksBefore q :=
    List.pairwise_mergeSort DataPoint.ranksBefore_trans DataPoint.ranksBefore_total points
  refine ⟨ranked.take n, ranked.drop n, ⟨?_, ?_, ?_⟩, rfl⟩
  · rwa [List.take_append_drop]
  · rw [List.length_take, hperm.length_eq]
  · intro p hp q hq
    rw [← List.take_append_drop n ranked, List.pairwise_append] at hpairwise
    have hrank := hpairwise.2.2 p hp q hq
    rw [DataPoint.ranksBefore_iff] at hrank
    rw [← DataPoint.rank_lt_rank_iff]
    exact hrank.not_gt

namespace BestAndRest

lemma mem_iff (h : BestAndRest n points best rest) {p : DataPoint Float} :
    p ∈ points ↔ p ∈ best ∨ p ∈ rest := by
  rw [← h.perm.mem_iff, List.mem_append]

lemma rest_eq_nil (h : BestAndRest n points best rest) (hn : points.length ≤ n) : rest = [] := by
  have hlength := h.perm.length_eq
  rw [List.length_append, h.length_best, Nat.min_eq_right hn] at hlength
  exact List.length_eq_zero_iff.mp (by omega)

/-- With the best are kept as many of the rest as share a sequence with one of them. -/
lemma length_filter (h : BestAndRest n points best rest) :
    (points.filter (sharesSequence best)).length =
      best.length + rest.countP (sharesSequence best) := by
  have hbest : best.countP (sharesSequence best) = best.length :=
    List.countP_eq_length.mpr fun _ hp => sharesSequence_of_mem hp
  rw [← List.countP_eq_length_filter, ← h.perm.countP_eq, List.countP_append, hbest]

/-- A limit that is not reached changes nothing. -/
lemma filter_eq_self (h : BestAndRest n points best rest) (hn : points.length ≤ n) :
    points.filter (sharesSequence best) = points := by
  rw [List.filter_eq_self]
  intro p hp
  rw [h.mem_iff, h.rest_eq_nil hn] at hp
  exact sharesSequence_of_mem (hp.resolve_right List.not_mem_nil)

/-- If all sequences are distinct, none of the rest is kept. -/
lemma sharesSequence_eq_false (h : BestAndRest n points best rest)
    (hdistinct : (points.map DataPoint.sequence).Nodup) {q : DataPoint Float} (hq : q ∈ rest) :
    sharesSequence best q = false := by
  have hnodup := (h.perm.map DataPoint.sequence).nodup_iff.mpr hdistinct
  rw [List.map_append, List.nodup_append] at hnodup
  rw [← Bool.not_eq_true, sharesSequence_iff]
  rintro ⟨p, hp, hsequence⟩
  exact hnodup.2.2 _ (List.mem_map_of_mem hp) _ (List.mem_map_of_mem hq) hsequence

end BestAndRest

end Split

/-! ## Selection with a limit -/

section Select

variable {α : Type} [ScoreNumber α]

lemma Selector.select_none (policy : Policy α) (points : List (DataPoint α)) :
    Selector.select ⟨policy, none⟩ points = policy.flagged points := rfl

lemma Selector.select_top (policy : Policy α) (n : ℕ) (points : List (DataPoint α)) :
    Selector.select ⟨policy, some n⟩ points =
      if n < (policy.flagged points).length then keepHighest n (policy.flagged points)
      else policy.flagged points := rfl

/-- A limit selects from what the policy flags. -/
lemma Selector.mem_flagged_of_mem_select {policy : Policy α} {top : Option ℕ}
    {points : List (DataPoint α)} {p : DataPoint α}
    (hp : p ∈ Selector.select ⟨policy, top⟩ points) : p ∈ policy.flagged points := by
  cases top with
  | none => exact hp
  | some n =>
    rw [select_top] at hp
    split at hp
    · exact List.mem_of_mem_filter hp
    · exact hp

lemma Selector.select_eq_nil {policy : Policy α} {points : List (DataPoint α)}
    (h : policy.flagged points = []) (top : Option ℕ) :
    Selector.select ⟨policy, top⟩ points = [] := by
  rw [List.eq_nil_iff_forall_not_mem]
  intro p hp
  have hflagged := mem_flagged_of_mem_select hp
  rw [h] at hflagged
  exact List.not_mem_nil hflagged

/-- Flagging drops points. -/
lemma Policy.flagged_sublist (policy : Policy α) (points : List (DataPoint α)) :
    (policy.flagged points).Sublist points := by
  unfold flagged
  dsimp only
  split
  · exact List.filter_sublist.trans List.filter_sublist
  · exact List.nil_sublist points

/-- Kept are the flagged points that share a sequence with one of the best. -/
lemma Selector.select_top_eq_filter (policy : Policy Float) (n : ℕ)
    (points : List (DataPoint Float)) :
    ∃ best rest, BestAndRest n (policy.flagged points) best rest ∧
      Selector.select ⟨policy, some n⟩ points =
        (policy.flagged points).filter (sharesSequence best) := by
  obtain ⟨best, rest, hsplit, hkeep⟩ := exists_bestAndRest n (policy.flagged points)
  refine ⟨best, rest, hsplit, ?_⟩
  rw [select_top]
  split
  · exact hkeep
  · next hfew => exact (hsplit.filter_eq_self (not_lt.mp hfew)).symm

end Select

/-! ## Distinct sequences -/

section Distinct

variable {points kept kept' : List (DataPoint Float)} {n : ℕ}

/-- The best `n` of some points, in their order. -/
structure KeepsBest (n : ℕ) (points kept : List (DataPoint Float)) : Prop where
  sublist : kept.Sublist points
  length_eq : kept.length = min n points.length
  ranksAbove : ∀ p ∈ kept, ∀ q ∈ points, q ∉ kept → p.RanksAbove q

/-- What is kept one way is kept the other way. -/
lemma KeepsBest.subset (hnodup : points.Nodup)
    (h : KeepsBest n points kept) (h' : KeepsBest n points kept') : kept ⊆ kept' := by
  intro p hp
  by_contra hmissing
  -- As many are kept either way, so some point takes the place of `p`.
  obtain ⟨q, hq, hother⟩ : ∃ q ∈ kept', q ∉ kept := by
    by_contra hall
    push Not at hall
    have hsubperm : kept'.Subperm kept := List.subperm_of_subset (hnodup.sublist h'.sublist) hall
    have hperm : kept'.Perm kept :=
      hsubperm.perm_of_length_le (by rw [h.length_eq, h'.length_eq])
    exact hmissing (hperm.mem_iff.mpr hp)
  have habove := h.ranksAbove p hp q (h'.sublist.subset hq) hother
  have hbelow := h'.ranksAbove q hq p (h.sublist.subset hp) hmissing
  exact habove.asymm hbelow

/-- There is one way to keep the best. -/
lemma KeepsBest.eq (hnodup : points.Nodup)
    (h : KeepsBest n points kept) (h' : KeepsBest n points kept') : kept = kept' := by
  rw [← hnodup.perm_iff_eq_of_sublist h.sublist h'.sublist,
    List.perm_ext_iff_of_nodup (hnodup.sublist h.sublist) (hnodup.sublist h'.sublist)]
  intro p
  exact ⟨fun hp => h.subset hnodup h' hp, fun hp => h'.subset hnodup h hp⟩

/-- If all sequences are distinct, those that share a sequence with the best are the best. -/
lemma BestAndRest.keepsBest_filter {best rest : List (DataPoint Float)}
    (h : BestAndRest n points best rest) (hdistinct : (points.map DataPoint.sequence).Nodup) :
    KeepsBest n points (points.filter (sharesSequence best)) where
  sublist := List.filter_sublist
  length_eq := by
    have hnone : rest.countP (sharesSequence best) = 0 := by
      rw [List.countP_eq_zero]
      intro q hq
      rw [h.sharesSequence_eq_false hdistinct hq]
      exact Bool.false_ne_true
    rw [h.length_filter, hnone, h.length_best, Nat.add_zero]
  ranksAbove := by
    intro p hp q hq hdropped
    rw [List.mem_filter] at hp hdropped
    have hpbest : p ∈ best := by
      refine (h.mem_iff.mp hp.1).resolve_right fun hrest => ?_
      rw [h.sharesSequence_eq_false hdistinct hrest] at hp
      exact Bool.false_ne_true hp.2
    have hqrest : q ∈ rest :=
      (h.mem_iff.mp hq).resolve_left fun hbest => hdropped ⟨hq, sharesSequence_of_mem hbest⟩
    apply DataPoint.ranksAbove_of_not_ranksAbove
    · intro hsequence
      exact hdropped ⟨hq, sharesSequence_iff.mpr ⟨p, hpbest, hsequence⟩⟩
    · exact h.not_ranksAbove p hpbest q hqrest

end Distinct

/-! ### Recorded points -/

/-- The points of some measurements, recorded one after the other. -/
def recorded (measured : List (ℕ × Float)) : List (DataPoint Float) :=
  measured.foldl (fun points m => record points m.1 m.2) []

/-- A recorded point has its place as its sequence. -/
lemma map_sequence_recorded (measured : List (ℕ × Float)) :
    (recorded measured).map DataPoint.sequence = List.range measured.length := by
  induction measured using List.reverseRecOn with
  | nil => rfl
  | append_singleton measured m ih =>
    have hlength : (recorded measured).length = measured.length := by
      rw [← List.length_map DataPoint.sequence, ih, List.length_range]
    have hstep : recorded (measured ++ [m]) = record (recorded measured) m.1 m.2 := by
      unfold recorded
      rw [List.foldl_append]
      rfl
    rw [hstep, record, List.map_append, ih, hlength, List.length_append, List.length_singleton,
      List.range_succ]
    rfl

lemma nodup_sequence_recorded (measured : List (ℕ × Float)) :
    ((recorded measured).map DataPoint.sequence).Nodup := by
  rw [map_sequence_recorded]
  exact List.nodup_range

/-! ### The limit -/

/-- **A limit keeps the best.**  If no two points have the same sequence, a selector with a limit
`n` selects the `n` best-ranked of the points that the policy flags, or all if they are fewer, in
the order that they are flagged in; and that is the only way to keep the best. -/
theorem top_limit_keeps_best (policy : Policy Float) (n : ℕ) {points : List (DataPoint Float)}
    (hdistinct : (points.map DataPoint.sequence).Nodup) (kept : List (DataPoint Float)) :
    KeepsBest n (Selector.select ⟨policy, none⟩ points) kept ↔
      kept = Selector.select ⟨policy, some n⟩ points := by
  rw [Selector.select_none]
  have hflagged : ((policy.flagged points).map DataPoint.sequence).Nodup :=
    hdistinct.sublist ((policy.flagged_sublist points).map DataPoint.sequence)
  obtain ⟨best, rest, hsplit, hselect⟩ := Selector.select_top_eq_filter policy n points
  have hselected := hsplit.keepsBest_filter hflagged
  rw [← hselect] at hselected
  constructor
  · intro hkept
    exact hkept.eq hflagged.of_map hselected
  · rintro rfl
    exact hselected

/-- Three measurements, the first and the last with equal scores. -/
def samplePoints : List (DataPoint Float) :=
  recorded [(0, Decimal.floatOfNat 4), (10, Decimal.floatOfNat 9), (20, Decimal.floatOfNat 4)]

theorem top_limit_keeps_best_of_samplePoints :
    (samplePoints.map DataPoint.sequence).Nodup ∧
      Selector.select ⟨.minimum (Decimal.floatOfNat 4), some 2⟩ samplePoints =
        [⟨0, Decimal.floatOfNat 4, 0⟩, ⟨10, Decimal.floatOfNat 9, 1⟩] := by
  have hdistinct : (samplePoints.map DataPoint.sequence).Nodup := nodup_sequence_recorded _
  refine ⟨hdistinct, ?_⟩
  symm
  rw [← top_limit_keeps_best _ 2 hdistinct]
  have hflagged : Selector.select ⟨.minimum (Decimal.floatOfNat 4), none⟩ samplePoints =
      [⟨0, Decimal.floatOfNat 4, 0⟩, ⟨10, Decimal.floatOfNat 9, 1⟩,
        ⟨20, Decimal.floatOfNat 4, 2⟩] := rfl
  rw [hflagged]
  refine ⟨List.sublist_append_left [_, _] [_], rfl, ?_⟩
  intro p hp q hq hdropped
  simp only [List.mem_cons, List.not_mem_nil, or_false, not_or] at hp hq hdropped
  obtain rfl := (hq.resolve_left hdropped.1).resolve_left hdropped.2
  rcases hp with rfl | rfl
  · decide +kernel
  · decide +kernel

/-! ## Shared sequences -/

/-- **How many points a limit keeps.**  The flagged points fall into the `n` best and the rest.  All
of the best are kept, and those of the rest that share a sequence with one of them.  So a limit of
`n` keeps at most `n` points if and only if none of the rest shares a sequence with one of the
best. -/
theorem length_select_top (policy : Policy Float) (n : ℕ) (points : List (DataPoint Float)) :
    ∃ best rest, BestAndRest n (Selector.select ⟨policy, none⟩ points) best rest ∧
      (Selector.select ⟨policy, some n⟩ points).length =
        best.length + rest.countP (sharesSequence best) ∧
      ((Selector.select ⟨policy, some n⟩ points).length ≤ n ↔
        ∀ q ∈ rest, ∀ p ∈ best, p.sequence ≠ q.sequence) := by
  rw [Selector.select_none]
  obtain ⟨best, rest, hsplit, hselect⟩ := Selector.select_top_eq_filter policy n points
  refine ⟨best, rest, hsplit, ?_, ?_⟩
  · rw [hselect, hsplit.length_filter]
  · rw [hselect, hsplit.length_filter, hsplit.length_best]
    have hshare : rest.countP (sharesSequence best) = 0 ↔
        ∀ q ∈ rest, ∀ p ∈ best, p.sequence ≠ q.sequence := by
      simp [List.countP_eq_zero, sharesSequence_iff]
    rcases Nat.le_total (policy.flagged points).length n with hfew | hmany
    · simp [hsplit.rest_eq_nil hfew, hfew]
    · rw [Nat.min_eq_left hmany, ← hshare]
      omega

/-- Two points of one sequence. -/
def twinPoints : List (DataPoint Float) :=
  [⟨0, Decimal.floatOfNat 5, 0⟩, ⟨10, Decimal.floatOfNat 3, 0⟩]

/-- A limit of one keeps two points. -/
theorem top_limit_exceeded :
    ¬ (Selector.select ⟨.minimum (Decimal.floatOfNat 0), some 1⟩ twinPoints).length ≤ 1 := by
  have hflagged : Policy.flagged (.minimum (Decimal.floatOfNat 0)) twinPoints = twinPoints := rfl
  have hranked : twinPoints.mergeSort DataPoint.ranksBefore = twinPoints :=
    List.mergeSort_of_pairwise (by decide +kernel)
  have hkept : keepHighest 1 twinPoints = twinPoints := by
    unfold keepHighest
    rw [hranked]
    rfl
  rw [Selector.select_top, hflagged, if_pos (by decide), hkept]
  decide

end RuleMetrics
