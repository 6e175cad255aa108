import Mathlib.Algebra.BigOperators.Fin
import Mathlib.Algebra.Order.Chebyshev
import Mathlib.Analysis.Real.Sqrt
import RuleMetrics.Proofs.Score.TopLimit

/-!
# Standard deviations in exact arithmetic

Selection is read here with real numbers for scores, counts and other rational scores among them,
so that sums, quotients and square roots are exact.  Then `meanAndDeviation` gives the mean of the
scores and their sample deviation (`meanAndDeviation_eq`), and a point is flagged if its score lies
more than `σ` deviations above the mean.

How far a score can lie from the mean is limited by the number of scores alone.  The distances from
the mean sum to zero, so those of all other scores make up for that of one, and their squares are
least if they share it equally.  Hence the square of one distance is at most `(n - 1)² / n` times
the sample variance (`sq_sub_average_le`), and with `(n - 1)² ≤ σ² * n` no score is flagged.  The
bound is attained by a single one among zeros, so where it ends there are scores of which one is
flagged (`canFlag_iff`).
-/

namespace RuleMetrics

/-- Exact arithmetic.  A score takes part when it is not negative. -/
noncomputable local instance exactNumber : ScoreNumber ℝ where
  ofCount n := n
  squareRoot := Real.sqrt
  usable x := decide (0 ≤ x)
  atLeast score threshold := decide (threshold ≤ score)
  above score threshold := decide (threshold < score)
  outranks score other := decide (other < score)

/-! ## Mean and deviation -/

section Average

variable {x : ℝ} {xs : List ℝ}

/-- The mean of some scores. -/
noncomputable def average (xs : List ℝ) : ℝ :=
  xs.sum / xs.length

/-- The sum of the squares of the distances from the mean. -/
noncomputable def spread (xs : List ℝ) : ℝ :=
  (xs.map (squaredDistance (average xs))).sum

/-- The sample standard deviation. -/
noncomputable def sampleDeviation (xs : List ℝ) : ℝ :=
  √(spread xs / (xs.length - 1))

lemma sumFrom_eq_sum (x : ℝ) (xs : List ℝ) : sumFrom x xs = (x :: xs).sum := by
  unfold sumFrom
  induction xs generalizing x with
  | nil => exact (add_zero x).symm
  | cons y xs ih => rw [List.foldl_cons, ih, List.sum_cons, List.sum_cons, List.sum_cons, add_assoc]

lemma squaredDistance_eq (mean : ℝ) : squaredDistance mean = fun x => (x - mean) ^ 2 := by
  funext x
  exact (pow_two (x - mean)).symm

lemma meanAndDeviation_eq (h : 2 ≤ xs.length) :
    meanAndDeviation xs = some (average xs, sampleDeviation xs) := by
  match xs, h with
  | first :: second :: rest, _ =>
    have hmean : sumFrom first (second :: rest) /
        ScoreNumber.ofCount ((second :: rest).length + 1) = average (first :: second :: rest) := by
      rw [sumFrom_eq_sum]
      rfl
    have hcount : ScoreNumber.ofCount (second :: rest).length =
        ((first :: second :: rest).length : ℝ) - 1 := by
      rw [eq_sub_iff_add_eq]
      exact (Nat.cast_succ (second :: rest).length).symm
    unfold meanAndDeviation
    dsimp only
    rw [hmean, sumFrom_eq_sum, hcount]
    rfl

lemma meanAndDeviation_eq_none (h : xs.length < 2) : meanAndDeviation xs = none := by
  match xs, h with
  | [], _ => rfl
  | [_], _ => rfl

lemma sampleDeviation_nonneg (xs : List ℝ) : 0 ≤ sampleDeviation xs :=
  Real.sqrt_nonneg _

/-! ### How far a score lies from the mean -/

/-- The distances from the mean sum to zero. -/
lemma sum_sub_average (xs : List ℝ) : (xs.map fun x => x - average xs).sum = 0 := by
  rcases eq_or_ne xs [] with rfl | hne
  · rfl
  have hlength : (xs.length : ℝ) ≠ 0 := Nat.cast_ne_zero.mpr (mt List.length_eq_zero_iff.mp hne)
  have hsum : (xs.map fun x => x - average xs).sum = xs.sum - xs.length * average xs := by
    simp only [sub_eq_add_neg, List.sum_map_add, List.map_id', List.map_const', List.sum_replicate,
      nsmul_eq_mul, mul_neg]
  rw [hsum, average, mul_div_cancel₀ _ hlength, sub_self]

/-- The squares of numbers with a given sum are least if all numbers are equal. -/
lemma sq_sum_le (xs : List ℝ) : xs.sum ^ 2 ≤ xs.length * (xs.map (· ^ 2)).sum := by
  have h := sq_sum_le_card_mul_sum_sq (s := Finset.univ) (f := fun i : Fin xs.length => xs[(i : ℕ)])
  rwa [Finset.card_univ, Fintype.card_fin, Fin.sum_univ_getElem,
    Fin.sum_univ_fun_getElem xs (· ^ 2)] at h

lemma spread_nonneg (xs : List ℝ) : 0 ≤ spread xs := by
  apply List.sum_nonneg
  intro a ha
  obtain ⟨x, -, rfl⟩ := List.mem_map.mp ha
  exact mul_self_nonneg _

/-- How far a score lies from the mean, given the spread of all of them. -/
lemma sq_sub_average_le (hx : x ∈ xs) :
    xs.length * (x - average xs) ^ 2 ≤ (xs.length - 1) * spread xs := by
  set others := (xs.erase x).map fun y => y - average xs with hothers
  have hperm : xs.Perm (x :: xs.erase x) := List.perm_cons_erase hx
  have hlength : (others.length : ℝ) = xs.length - 1 := by
    rw [eq_sub_iff_add_eq, hothers, List.length_map, hperm.length_eq]
    exact (Nat.cast_succ _).symm
  have hsum : others.sum = -(x - average xs) := by
    have h := sum_sub_average xs
    rw [(hperm.map _).sum_eq, List.map_cons, List.sum_cons] at h
    exact eq_neg_of_add_eq_zero_right h
  have hspread : spread xs = (x - average xs) ^ 2 + (others.map (· ^ 2)).sum := by
    rw [spread, squaredDistance_eq, (hperm.map _).sum_eq, List.map_cons, List.sum_cons, hothers,
      List.map_map]
    rfl
  -- The other distances sum to `average xs - x`.
  have hothersq := sq_sum_le others
  rw [hsum, neg_sq, hlength] at hothersq
  rw [hspread]
  linarith

/-- No score lies below the least one, so neither does the mean. -/
lemma le_average (hx : x ∈ xs) (hleast : ∀ y ∈ xs, x ≤ y) : x ≤ average xs := by
  have hlength : (0 : ℝ) < xs.length := Nat.cast_pos.mpr (List.length_pos_of_mem hx)
  rw [average, le_div_iff₀ hlength, mul_comm, ← nsmul_eq_mul]
  exact List.card_nsmul_le_sum xs x hleast

/-- A score lies at most `(n - 1) / √n` deviations above the mean. -/
lemma le_average_add {σ : ℝ} (hσ : 0 < σ) (hcount : 2 ≤ xs.length)
    (hfew : ((xs.length : ℝ) - 1) ^ 2 ≤ σ ^ 2 * xs.length) (hx : x ∈ xs) :
    x ≤ average xs + σ * sampleDeviation xs := by
  set n : ℝ := (xs.length : ℝ)
  set variance := spread xs / (n - 1) with hvariance
  have hn : 2 ≤ n := Nat.ofNat_le_cast.mpr hcount
  have hspread : spread xs = (n - 1) * variance := by
    rw [hvariance, mul_div_cancel₀ _ (by linarith)]
  have hnonneg : 0 ≤ variance := div_nonneg (spread_nonneg xs) (by linarith)
  have hscaled : n * (x - average xs) ^ 2 ≤ n * (σ ^ 2 * variance) := calc
    n * (x - average xs) ^ 2 ≤ (n - 1) * spread xs := sq_sub_average_le hx
    _ = (n - 1) ^ 2 * variance := by rw [hspread, pow_two, mul_assoc]
    _ ≤ σ ^ 2 * n * variance := mul_le_mul_of_nonneg_right hfew hnonneg
    _ = n * (σ ^ 2 * variance) := by rw [mul_comm (σ ^ 2) n, mul_assoc]
  have hsq : (x - average xs) ^ 2 ≤ (σ * sampleDeviation xs) ^ 2 := by
    rw [mul_pow, sampleDeviation, Real.sq_sqrt hnonneg]
    exact le_of_mul_le_mul_left hscaled (by linarith)
  have hle := abs_le_of_sq_le_sq hsq (mul_nonneg hσ.le (sampleDeviation_nonneg xs))
  exact sub_le_iff_le_add'.mp (le_of_abs_le hle)

end Average

/-! ## What `σ` flags -/

section Sigma

variable {σ : ℝ} {points : List (DataPoint ℝ)} {p : DataPoint ℝ}

/-- The scores that take part in selection. -/
noncomputable def usableScores (points : List (DataPoint ℝ)) : List ℝ :=
  (points.filter DataPoint.isUsable).map DataPoint.score

lemma isUsable_iff_nonneg : p.isUsable = true ↔ 0 ≤ p.score :=
  decide_eq_true_iff

lemma score_mem_usableScores (hp : p ∈ points) (husable : p.isUsable = true) :
    p.score ∈ usableScores points :=
  List.mem_map_of_mem (List.mem_filter.mpr ⟨hp, husable⟩)

lemma flagged_sigma_eq_nil (hfew : (usableScores points).length < 2) :
    (Policy.sigma σ).flagged points = [] := by
  have hnone : meanAndDeviation ((points.filter DataPoint.isUsable).map DataPoint.score) = none :=
    meanAndDeviation_eq_none hfew
  unfold Policy.flagged Policy.test?
  dsimp only
  rw [hnone]
  rfl

lemma flagged_sigma_eq_filter (hmany : 2 ≤ (usableScores points).length) :
    (Policy.sigma σ).flagged points = (points.filter DataPoint.isUsable).filter fun p =>
      decide (average (usableScores points) + σ * sampleDeviation (usableScores points)
        < p.score) := by
  have hsome := meanAndDeviation_eq hmany
  unfold usableScores at hsome
  unfold Policy.flagged Policy.test?
  dsimp only
  rw [hsome]
  rfl

/-- A flagged point lies more than `σ` deviations above the mean of two or more scores. -/
lemma mem_flagged_sigma_iff : p ∈ (Policy.sigma σ).flagged points ↔
    p ∈ points ∧ p.isUsable = true ∧ 2 ≤ (usableScores points).length ∧
      average (usableScores points) + σ * sampleDeviation (usableScores points) < p.score := by
  rcases lt_or_ge (usableScores points).length 2 with hfew | hmany
  · rw [flagged_sigma_eq_nil hfew]
    exact iff_of_false List.not_mem_nil fun h => hfew.not_ge h.2.2.1
  · rw [flagged_sigma_eq_filter hmany, List.mem_filter, List.mem_filter, decide_eq_true_iff,
      and_assoc, and_iff_right hmany]

/-! ### Too few scores -/

/-- Nothing is flagged with so few scores that none can lie far enough above the mean. -/
lemma flagged_sigma_eq_nil_of_sq_le (hσ : 0 < σ)
    (hfew : ((usableScores points).length - 1 : ℝ) ^ 2 ≤ σ ^ 2 * (usableScores points).length) :
    (Policy.sigma σ).flagged points = [] := by
  rw [List.eq_nil_iff_forall_not_mem]
  intro p hp
  obtain ⟨hmem, husable, hmany, habove⟩ := mem_flagged_sigma_iff.mp hp
  exact (le_average_add hσ hmany hfew (score_mem_usableScores hmem husable)).not_gt habove

/-- A least score is not above the mean. -/
lemma not_mem_flagged_sigma_of_least (hσ : 0 < σ)
    (hleast : ∀ x ∈ usableScores points, p.score ≤ x) : p ∉ (Policy.sigma σ).flagged points := by
  intro hp
  obtain ⟨hmem, husable, -, habove⟩ := mem_flagged_sigma_iff.mp hp
  have haverage := le_average (score_mem_usableScores hmem husable) hleast
  have hdeviation := mul_nonneg hσ.le (sampleDeviation_nonneg (usableScores points))
  linarith

/-! ### Enough scores -/

/-- A score of one and `m` zeros.  No score of as many lies farther above the mean, measured in
deviations. -/
noncomputable def oneAmongZeros (m : ℕ) : List (DataPoint ℝ) :=
  ⟨0, 1, 0⟩ :: (List.range m).map fun i => ⟨i + 1, 0, i + 1⟩

lemma usableScores_oneAmongZeros (m : ℕ) :
    usableScores (oneAmongZeros m) = 1 :: List.replicate m 0 := by
  have hall : (oneAmongZeros m).filter DataPoint.isUsable = oneAmongZeros m := by
    rw [List.filter_eq_self]
    intro p hp
    rw [isUsable_iff_nonneg]
    rcases List.mem_cons.mp hp with rfl | hp
    · exact zero_le_one
    · obtain ⟨i, -, rfl⟩ := List.mem_map.mp hp
      exact le_rfl
  rw [usableScores, hall, oneAmongZeros, List.map_cons, List.map_map]
  simp [Function.comp_def]

lemma length_usableScores_oneAmongZeros (m : ℕ) :
    (usableScores (oneAmongZeros m)).length = m + 1 := by
  rw [usableScores_oneAmongZeros, List.length_cons, List.length_replicate]

lemma average_oneAmongZeros (m : ℕ) : average (usableScores (oneAmongZeros m)) = 1 / (m + 1) := by
  simp [usableScores_oneAmongZeros, average]

lemma spread_oneAmongZeros (m : ℕ) : spread (usableScores (oneAmongZeros m)) = m / (m + 1) := by
  rw [spread, average_oneAmongZeros, usableScores_oneAmongZeros, squaredDistance_eq, List.map_cons,
    List.sum_cons, List.map_replicate, List.sum_replicate, nsmul_eq_mul]
  field_simp
  ring

lemma sampleDeviation_oneAmongZeros {m : ℕ} (hm : m ≠ 0) :
    sampleDeviation (usableScores (oneAmongZeros m)) = √(m + 1) / (m + 1) := by
  have hvariance : (m : ℝ) / (m + 1) / m = 1 / (m + 1) := by
    rw [div_right_comm, div_self (Nat.cast_ne_zero.mpr hm)]
  rw [sampleDeviation, spread_oneAmongZeros, length_usableScores_oneAmongZeros, Nat.cast_succ,
    add_sub_cancel_right, hvariance, Real.sqrt_div zero_le_one, Real.sqrt_one,
    Real.sqrt_div_self']

/-- With enough zeros, the one is flagged. -/
lemma mem_flagged_oneAmongZeros {m : ℕ} (hm : m ≠ 0)
    (hmany : σ ^ 2 * (m + 1) < (m : ℝ) ^ 2) :
    ⟨0, 1, 0⟩ ∈ (Policy.sigma σ).flagged (oneAmongZeros m) := by
  have hpos : (0 : ℝ) < m + 1 := Nat.cast_add_one_pos m
  have hroot : σ * √(m + 1) < m := by
    refine lt_of_pow_lt_pow_left₀ 2 (Nat.cast_nonneg m) ?_
    rwa [mul_pow, Real.sq_sqrt hpos.le]
  rw [mem_flagged_sigma_iff, length_usableScores_oneAmongZeros, average_oneAmongZeros,
    sampleDeviation_oneAmongZeros hm]
  refine ⟨List.mem_cons_self, isUsable_iff_nonneg.mpr zero_le_one, by omega, ?_⟩
  rw [mul_div_assoc', ← add_div, div_lt_one hpos, add_comm]
  exact add_lt_add_left hroot 1

/-- Whether a point is selected from some points of which `n` take part. -/
def CanFlag (σ : ℝ) (n : ℕ) : Prop :=
  ∃ (top : Option ℕ) (points : List (DataPoint ℝ)), (usableScores points).length = n ∧
    Selector.select ⟨.sigma σ, top⟩ points ≠ []

/-- Only the bound on the distance from the mean keeps scores from being flagged. -/
lemma canFlag_iff (hσ : 0 < σ) {n : ℕ} :
    CanFlag σ n ↔ 2 ≤ n ∧ σ ^ 2 * n < ((n : ℝ) - 1) ^ 2 := by
  constructor
  · rintro ⟨top, points, rfl, hselect⟩
    obtain ⟨p, hp⟩ := List.exists_mem_of_ne_nil _ hselect
    have hflagged := Selector.mem_flagged_of_mem_select hp
    refine ⟨(mem_flagged_sigma_iff.mp hflagged).2.2.1, ?_⟩
    by_contra hfew
    rw [flagged_sigma_eq_nil_of_sq_le hσ (not_lt.mp hfew)] at hflagged
    exact List.not_mem_nil hflagged
  · rintro ⟨hn, hmany⟩
    obtain ⟨m, rfl⟩ : ∃ m, n = m + 1 := ⟨n - 1, by omega⟩
    rw [Nat.cast_succ, add_sub_cancel_right] at hmany
    have hone := mem_flagged_oneAmongZeros (by omega) hmany
    exact ⟨none, oneAmongZeros m, length_usableScores_oneAmongZeros m, List.ne_nil_of_mem hone⟩

/-- One score more is still enough. -/
lemma canFlag_succ (hσ : 0 < σ) {n : ℕ} (h : CanFlag σ n) : CanFlag σ (n + 1) := by
  rw [canFlag_iff hσ] at h ⊢
  obtain ⟨hn, hmany⟩ := h
  refine ⟨by omega, ?_⟩
  have hpos : (2 : ℝ) ≤ n := Nat.ofNat_le_cast.mpr hn
  rw [Nat.cast_succ, add_sub_cancel_right]
  refine lt_of_mul_lt_mul_right ?_ (by linarith : (0 : ℝ) ≤ n)
  calc σ ^ 2 * ((n : ℝ) + 1) * n = σ ^ 2 * n * (n + 1) := by ring
    _ < ((n : ℝ) - 1) ^ 2 * (n + 1) := mul_lt_mul_of_pos_right hmany (by linarith)
    _ = (n : ℝ) ^ 2 * n - (n * (n + 1) - 1) := by ring
    _ ≤ (n : ℝ) ^ 2 * n := by
      have hone : 1 ≤ (n : ℝ) * (n + 1) :=
        one_le_mul_of_one_le_of_one_le (by linarith) (by linarith)
      exact sub_le_self _ (sub_nonneg.mpr hone)

/-- Some number of scores is enough, since `(n - 1)²` outgrows `σ² * n`. -/
lemma exists_canFlag (hσ : 0 < σ) : ∃ n, CanFlag σ n := by
  obtain ⟨n, hn⟩ := exists_nat_gt (σ ^ 2 + 2)
  have hsq := pow_pos hσ 2
  refine ⟨n, (canFlag_iff hσ).mpr ⟨?_, ?_⟩⟩
  · have htwo : (2 : ℝ) ≤ n := by linarith
    exact Nat.ofNat_le_cast.mp htwo
  · calc σ ^ 2 * (n : ℝ) ≤ (n - 2) * n :=
          mul_le_mul_of_nonneg_right (by linarith) (by linarith)
      _ < ((n : ℝ) - 1) ^ 2 := by linarith

/-- **What lies out of reach of `σ` deviations.**  In exact arithmetic nothing is selected from
fewer than two scores or from equal ones, no point of the least score is selected, and nothing at
all from `n` scores with `(n - 1)² ≤ σ² * n`.  So some least number of scores is needed to have a
point selected, and from that number on it can be. -/
theorem sigma_limits (hσ : 0 < σ) :
    (∀ (top : Option ℕ) (points : List (DataPoint ℝ)),
      ((usableScores points).length < 2 → Selector.select ⟨.sigma σ, top⟩ points = []) ∧
      ((∀ x ∈ usableScores points, ∀ y ∈ usableScores points, x = y) →
        Selector.select ⟨.sigma σ, top⟩ points = []) ∧
      (∀ p ∈ points, p.isUsable = true → (∀ x ∈ usableScores points, p.score ≤ x) →
        p ∉ Selector.select ⟨.sigma σ, top⟩ points) ∧
      (((usableScores points).length - 1 : ℝ) ^ 2 ≤ σ ^ 2 * (usableScores points).length →
        Selector.select ⟨.sigma σ, top⟩ points = [])) ∧
    ∃ least, ∀ n, CanFlag σ n ↔ least ≤ n := by
  classical
  constructor
  · intro top points
    refine ⟨?_, ?_, ?_, ?_⟩
    · intro hfew
      exact Selector.select_eq_nil (flagged_sigma_eq_nil hfew) top
    · -- If all scores are equal, each is the least.
      intro hequal
      refine Selector.select_eq_nil ?_ top
      rw [List.eq_nil_iff_forall_not_mem]
      intro p hp
      obtain ⟨hmem, husable, -, -⟩ := mem_flagged_sigma_iff.mp hp
      refine not_mem_flagged_sigma_of_least hσ ?_ hp
      intro x hx
      exact (hequal _ (score_mem_usableScores hmem husable) x hx).le
    · intro p _ _ hleast hp
      exact not_mem_flagged_sigma_of_least hσ hleast (Selector.mem_flagged_of_mem_select hp)
    · intro hfew
      exact Selector.select_eq_nil (flagged_sigma_eq_nil_of_sq_le hσ hfew) top
  · refine ⟨Nat.find (exists_canFlag hσ), fun n => ⟨Nat.find_min' _, fun hle => ?_⟩⟩
    induction n, hle using Nat.le_induction with
    | base => exact Nat.find_spec (exists_canFlag hσ)
    | succ n _ ih => exact canFlag_succ hσ ih

/-- Two deviations are out of reach of five scores, and no further. -/
theorem sigma_limits_of_oneAmongZeros : (0 : ℝ) < 2 ∧
    Selector.select ⟨.sigma 2, none⟩ (oneAmongZeros 4) = [] ∧ CanFlag 2 6 := by
  refine ⟨two_pos, ?_, ?_⟩
  · apply ((sigma_limits two_pos).1 none (oneAmongZeros 4)).2.2.2
    rw [length_usableScores_oneAmongZeros]
    norm_num
  · rw [canFlag_iff two_pos]
    norm_num

end Sigma

end RuleMetrics
