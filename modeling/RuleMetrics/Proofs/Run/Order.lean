import Mathlib.Data.Prod.Lex
import Mathlib.Data.String.Basic
import RuleMetrics.Proofs.Sorting
import RuleMetrics.Run.Result

/-!
# The order of a report

Violations are ordered by file, line and rule, which is the lexicographic order of their keys
(`reportedBefore_iff`).  Many violations can have one key, so a result in order is not determined by
its violations alone, but by those of each key in their order (`RunResult.sorted_eq_sorted`).
-/

namespace RuleMetrics

/-- What violations are ordered by. -/
def ReportedViolation.key (v : ReportedViolation) : String ×ₗ ℕ ×ₗ String :=
  toLex (v.file, toLex (v.line, v.rule))

lemma ReportedViolation.key_eq_iff {v : ReportedViolation} {file rule : String} {line : ℕ} :
    v.key = toLex (file, toLex (line, rule)) ↔ v.file = file ∧ v.line = line ∧ v.rule = rule := by
  simp [key]

lemma ReportedViolation.key_le_key_iff {a b : ReportedViolation} :
    a.key ≤ b.key ↔ a.file < b.file ∨ a.file = b.file ∧
      (a.line < b.line ∨ a.line = b.line ∧ a.rule ≤ b.rule) := by
  unfold key
  rw [Prod.Lex.toLex_le_toLex, Prod.Lex.toLex_le_toLex]

lemma ReportedViolation.reportedBefore_iff {a b : ReportedViolation} :
    a.reportedBefore b = true ↔ a.key ≤ b.key := by
  rw [key_le_key_iff]
  simp [reportedBefore]

lemma ReportedViolation.reportedBefore_trans (a b c : ReportedViolation)
    (hab : a.reportedBefore b = true) (hbc : b.reportedBefore c = true) :
    a.reportedBefore c = true := by
  rw [reportedBefore_iff] at hab hbc ⊢
  exact hab.trans hbc

lemma ReportedViolation.reportedBefore_total (a b : ReportedViolation) :
    (a.reportedBefore b || b.reportedBefore a) = true := by
  rw [Bool.or_eq_true, reportedBefore_iff, reportedBefore_iff]
  exact le_total a.key b.key

namespace RunResult

open ReportedViolation

variable {r r' : RunResult}

lemma pairwise_sorted (r : RunResult) : r.sorted.violations.Pairwise fun a b => a.key ≤ b.key := by
  have hpairwise := List.pairwise_mergeSort reportedBefore_trans reportedBefore_total r.violations
  exact hpairwise.imp reportedBefore_iff.mp

/-- Violations of one key keep their order. -/
lemma filter_key_sorted (r : RunResult) (k : String ×ₗ ℕ ×ₗ String) :
    (r.sorted.violations.filter fun v => v.key = k) = r.violations.filter fun v => v.key = k := by
  apply List.filter_mergeSort reportedBefore_trans reportedBefore_total
  intro a b ha hb
  rw [reportedBefore_iff, of_decide_eq_true ha, of_decide_eq_true hb]

/-- Results with the same violations of every key in the same order are the same in order. -/
lemma sorted_eq_sorted
    (hviolations : ∀ k, (r.violations.filter fun v => v.key = k) =
      r'.violations.filter fun v => v.key = k)
    (hscanned : r.scanned = r'.scanned) (hskipped : r.skipped.Perm r'.skipped) :
    r.sorted = r'.sorted := by
  have hsorted : r.sorted.violations = r'.sorted.violations := by
    apply List.eq_of_filter_key_eq r.pairwise_sorted r'.pairwise_sorted
    intro k
    rw [filter_key_sorted, filter_key_sorted, hviolations]
  have hfiles : r.sorted.skipped = r'.sorted.skipped := by
    have hperm : r.sorted.skipped.Perm r'.sorted.skipped :=
      (List.mergeSort_perm _ _).trans (hskipped.trans (List.mergeSort_perm _ _).symm)
    exact hperm.eq_of_pairwise' (List.pairwise_mergeSort' (· ≤ ·) r.skipped)
      (List.pairwise_mergeSort' (· ≤ ·) r'.skipped)
  unfold sorted at *
  simp only [RunResult.mk.injEq]
  exact ⟨hsorted, hscanned, hfiles⟩

end RunResult

end RuleMetrics
