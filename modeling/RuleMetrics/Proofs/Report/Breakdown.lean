import RuleMetrics.Proofs.Text.Table
import RuleMetrics.Report.Basic

/-!
# The breakdown of a report

The violations of a run are counted by their rules, one after the other, and the breakdown of a
report lists what was counted.  What holds of every table of counts (`Proofs/Text/Table.lean`)
therefore holds of the breakdown: no violation is lost or counted twice, none counts for another
rule, and the order in which the violations were found does not matter (`breakdown_accounts`).

Rules are listed in the order of their names, by characters.  This is the order of their bytes as
well (`Text.lt_iff_bytes_lt`).
-/

namespace RuleMetrics

open Text

/-! ## Counts -/

namespace RunResult

variable {r r' : RunResult} {rule : String} {n : Nat}

/-- The rules of the violations, once for each violation. -/
def rules (r : RunResult) : List String :=
  r.violations.map ReportedViolation.rule

lemma countsByRule_eq (r : RunResult) : r.countsByRule = (Table.counts r.rules).entries := rfl

lemma count_rules (r : RunResult) (rule : String) :
    r.rules.count rule = r.violations.countP fun v => v.rule = rule := by
  unfold rules
  rw [List.count, List.countP_map]
  apply List.countP_congr
  intro v _
  simp

lemma mem_countsByRule_iff : (rule, n) ∈ r.countsByRule ↔
    n = (r.violations.countP fun v => v.rule = rule) ∧ 0 < n := by
  rw [countsByRule_eq, Table.mem_counts_iff, count_rules]

/-- The rules that are counted are those of the violations. -/
lemma exists_mem_countsByRule_iff :
    (∃ entry ∈ r.countsByRule, entry.1 = rule) ↔ ∃ v ∈ r.violations, v.rule = rule := by
  rw [← List.mem_map, ← List.mem_map]
  exact Table.mem_keys_counts_iff

lemma sum_countsByRule (r : RunResult) :
    (r.countsByRule.map Prod.snd).sum = r.violations.length := by
  calc
    (r.countsByRule.map Prod.snd).sum = r.rules.length := Table.sum_counts r.rules
    _ = r.violations.length := List.length_map ReportedViolation.rule

lemma countsByRule_eq_nil_iff : r.countsByRule = [] ↔ r.violations = [] := by
  constructor
  · intro hnil
    have hsum := r.sum_countsByRule
    rw [hnil] at hsum
    exact List.length_eq_zero_iff.mp hsum.symm
  · intro hnil
    rw [countsByRule_eq, rules, hnil]
    rfl

lemma countsByRule_eq_of_perm (h : r.violations.Perm r'.violations) :
    r.countsByRule = r'.countsByRule := by
  have hrules : r.rules.Perm r'.rules := h.map ReportedViolation.rule
  rw [countsByRule_eq, countsByRule_eq, Table.counts_eq_of_perm hrules]

end RunResult

/-! ## The breakdown -/

namespace Report

/-- An account of some violations by their rules. -/
structure BreaksDown (violations : List ReportedViolation) (breakdown : List BreakdownEntry) :
    Prop where
  /-- No rule is listed twice, and the names are in order. -/
  ascending : breakdown.Pairwise fun d e => d.rule < e.rule
  /-- The rules of the violations are listed, and no others. -/
  listed_iff : ∀ rule, (∃ entry ∈ breakdown, entry.rule = rule) ↔ ∃ v ∈ violations, v.rule = rule
  count_eq : ∀ entry ∈ breakdown,
    entry.violations = violations.countP fun v => v.rule = entry.rule
  count_pos : ∀ entry ∈ breakdown, 1 ≤ entry.violations
  sum_eq : (breakdown.map BreakdownEntry.violations).sum = violations.length

/-- The entry of the breakdown for a count. -/
lemma mem_breakdown_iff {path ruleset : String} {result : RunResult}
    {failures : List RuleFailure} {entry : BreakdownEntry} :
    entry ∈ (ofResult path ruleset result failures).breakdown ↔
      (entry.rule, entry.violations) ∈ result.countsByRule := by
  constructor
  · intro hentry
    obtain ⟨count, hcount, rfl⟩ := List.mem_map.mp hentry
    exact hcount
  · intro hcount
    exact List.mem_map.mpr ⟨_, hcount, rfl⟩

lemma breaksDown_ofResult (path ruleset : String) (result : RunResult)
    (failures : List RuleFailure) :
    BreaksDown result.violations (ofResult path ruleset result failures).breakdown where
  ascending := List.pairwise_map.mpr (Table.counts result.rules).ascending
  listed_iff := by
    intro rule
    rw [← RunResult.exists_mem_countsByRule_iff]
    constructor
    · rintro ⟨entry, hentry, rfl⟩
      exact ⟨_, mem_breakdown_iff.mp hentry, rfl⟩
    · rintro ⟨⟨rule, n⟩, hcount, rfl⟩
      exact ⟨⟨rule, n⟩, mem_breakdown_iff.mpr hcount, rfl⟩
  count_eq _ hentry := (RunResult.mem_countsByRule_iff.mp (mem_breakdown_iff.mp hentry)).1
  count_pos _ hentry := (RunResult.mem_countsByRule_iff.mp (mem_breakdown_iff.mp hentry)).2
  sum_eq := by
    rw [← result.sum_countsByRule]
    exact congrArg List.sum List.map_map

/-- **The breakdown of a report.**  For every result, the breakdown is an account of the reported
violations, which are those of the result.  It is empty exactly if the check passed.  It is a
matter of the violations alone, in any order. -/
theorem breakdown_accounts (path ruleset : String) (result : RunResult)
    (failures : List RuleFailure) :
    BreaksDown result.violations (ofResult path ruleset result failures).breakdown ∧
    (ofResult path ruleset result failures).violations = result.violations ∧
    ((ofResult path ruleset result failures).breakdown = [] ↔
      (ofResult path ruleset result failures).passed = true) ∧
    ∀ result' : RunResult, result'.violations.Perm result.violations →
      ∀ (path' ruleset' : String) (failures' : List RuleFailure),
        (ofResult path' ruleset' result' failures').breakdown =
          (ofResult path ruleset result failures).breakdown := by
  refine ⟨breaksDown_ofResult path ruleset result failures, rfl, ?_, ?_⟩
  · calc
      (ofResult path ruleset result failures).breakdown = []
        ↔ result.countsByRule = [] := List.map_eq_nil_iff
      _ ↔ result.violations = [] := RunResult.countsByRule_eq_nil_iff
      _ ↔ result.isClean = true := List.isEmpty_iff.symm
  · intro result' hperm path' ruleset' failures'
    exact congrArg (List.map _) (RunResult.countsByRule_eq_of_perm hperm)

/-- Two rules by turns. -/
def mixedResult : RunResult where
  violations := [⟨"Size", "A.java", 3, "too large", [], .warning⟩,
    ⟨"Depth", "A.java", 5, "too deep", [], .error⟩,
    ⟨"Size", "B.java", 1, "too large", [], .warning⟩]
  scanned := 2
  skipped := []

theorem breakdown_accounts_of_mixedResult :
    (ofResult "." "rules.yaml" mixedResult []).breakdown = [⟨"Depth", 1⟩, ⟨"Size", 2⟩] ∧
      (ofResult "." "rules.yaml"
        { mixedResult with violations := mixedResult.violations.reverse } []).breakdown =
          [⟨"Depth", 1⟩, ⟨"Size", 2⟩] := by
  have hcounts : (ofResult "." "rules.yaml" mixedResult []).breakdown =
      [⟨"Depth", 1⟩, ⟨"Size", 2⟩] := by
    decide
  obtain ⟨-, -, -, horder⟩ := breakdown_accounts "." "rules.yaml" mixedResult []
  exact ⟨hcounts, (horder _ (List.reverse_perm _) "." "rules.yaml" []).trans hcounts⟩

end Report

end RuleMetrics
