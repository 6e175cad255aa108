import RuleMetrics.Proofs.RuleSet.Outcomes

/-!
# What is reported of a rejected entry

An entry of a known rule is rejected when one of its properties cannot be configured, or when the
others leave the rule without a selector.  These are two questions, but loading asks the second only
when the answer to the first is no.  So a conflict of `minimum` and `sigma` is reported exactly when
no property has a problem (`rejected_entries`); with any other mistake in the entry it is left out,
and comes up once the mistake is gone (`conflict_hidden_by_unknown_property`).
-/

namespace RuleMetrics

variable {registry : Registry} {entry : RuleEntry} {rule : Rule}

/-- Two configured thresholds are in conflict. -/
lemma selectorFor_eq_conflicting_iff {name : String} {s : PropertySet} :
    selectorFor name s = .error (.conflicting name) ↔
      s.isConfigured sigmaName = true ∧ s.isConfigured minimumName = true := by
  unfold selectorFor policyFor
  rw [Except.map_eq_error_iff]
  cases s.isConfigured sigmaName with
  | true =>
    cases s.isConfigured minimumName with
    | true => simp
    | false => cases s.float? sigmaName <;> simp
  | false => cases s.float? minimumName <;> simp

/-- No property has a problem of thresholds. -/
lemma Rule.ne_thresholds_of_mem_failing {properties : List (String × DocumentValue)}
    {f : String × RuleProblem} (h : f ∈ rule.failing properties) (e : ThresholdError) :
    f.2 ≠ .thresholds e := by
  obtain ⟨name, problem⟩ := f
  obtain ⟨v, -, hproblem⟩ := Rule.mem_failing.mp h
  rw [Rule.configureValue_eq, Except.map_eq_error_iff] at hproblem
  unfold Rule.acceptValue at hproblem
  rintro rfl
  split at hproblem
  · cases hproblem
  · obtain ⟨cause, -, hcause⟩ := Except.mapError_eq_error_iff.mp hproblem
    cases hcause

/-- A problem of thresholds is reported when the properties have no problems of their own. -/
lemma RuleEntry.thresholds_mem_iff (hrule : builtinRule? registry entry.name = some rule)
    {problems : List RuleProblem} (hload : entry.load registry = .error problems)
    (e : ThresholdError) :
    .thresholds e ∈ problems ↔
      selectorFor rule.name (rule.configureAll entry.properties.entries).1.properties = .error e ∧
        rule.failing entry.properties.entries = [] := by
  by_cases hfailing : rule.failing entry.properties.entries = []
  · obtain ⟨e', he', rfl⟩ :=
      (RuleEntry.load_eq_error_iff_of_not_failing hrule hfailing).mp hload
    rw [he']
    simp [hfailing, eq_comm]
  · rw [RuleEntry.load_of_failing hrule hfailing] at hload
    cases hload
    simp only [hfailing, and_false, iff_false]
    intro hmem
    obtain ⟨f, hf, heq⟩ := List.mem_map.mp hmem
    exact Rule.ne_thresholds_of_mem_failing hf e heq

/-- An entry is rejected for its properties or for its thresholds. -/
lemma RuleEntry.rejected_iff (hrule : builtinRule? registry entry.name = some rule) :
    (∃ problems, entry.load registry = .error problems) ↔
      rule.failing entry.properties.entries ≠ [] ∨
        ∃ e, selectorFor rule.name
          (rule.configureAll entry.properties.entries).1.properties = .error e := by
  by_cases hfailing : rule.failing entry.properties.entries = []
  · simp only [RuleEntry.load_eq_error_iff_of_not_failing hrule hfailing, hfailing, ne_eq,
      not_true_eq_false, false_or]
    constructor
    · rintro ⟨problems, e, he, -⟩
      exact ⟨e, he⟩
    · rintro ⟨e, he⟩
      exact ⟨[.thresholds e], e, he, rfl⟩
  · simp [RuleEntry.load_of_failing hrule hfailing, hfailing]

/-- **Rejected entries.**  Let `s` be the properties of a known rule after all properties of an
entry were configured that can be.  The entry is rejected if and only if one of its properties
cannot be configured or `s` gives no selector.  What is reported then has the problem of every
property that cannot be configured; it has the conflict of thresholds if and only if `s` has both
configured and every property can be configured. -/
theorem rejected_entries {registry : Registry} {entry : RuleEntry} {rule : Rule}
    (hrule : builtinRule? registry entry.name = some rule) :
    let s := (rule.configureAll entry.properties.entries).1.properties
    ∃ failing, rule.FailsWith entry.properties failing ∧
      ((∃ problems, entry.load registry = .error problems) ↔
        failing ≠ [] ∨ ∃ e, selectorFor rule.name s = .error e) ∧
      ∀ problems, entry.load registry = .error problems →
        (∀ f ∈ failing, f.2 ∈ problems) ∧
        (failing ≠ [] → problems = failing.map Prod.snd) ∧
        (.thresholds (.conflicting rule.name) ∈ problems ↔
          (s.isConfigured sigmaName = true ∧ s.isConfigured minimumName = true) ∧
            failing = []) := by
  intro s
  refine ⟨rule.failing entry.properties.entries, rule.failsWith_failing entry.properties,
    RuleEntry.rejected_iff hrule, ?_⟩
  intro problems hload
  have hproblems : rule.failing entry.properties.entries ≠ [] →
      problems = (rule.failing entry.properties.entries).map Prod.snd := by
    intro hfailing
    rw [RuleEntry.load_of_failing hrule hfailing] at hload
    cases hload
    rfl
  refine ⟨?_, hproblems, ?_⟩
  · intro f hf
    rw [hproblems (List.ne_nil_of_mem hf)]
    exact List.mem_map_of_mem hf
  · rw [RuleEntry.thresholds_mem_iff hrule hload, selectorFor_eq_conflicting_iff]

/-- The conflict is reported, so the properties have both thresholds configured. -/
theorem rejected_entries_of_conflictingEntry :
    let s := ((ConstructorSize.rule smallRegistry).configureAll
      conflictingEntry.properties.entries).1.properties
    conflictingEntry.load smallRegistry =
        .error [.thresholds (.conflicting ConstructorSize.ruleName)] ∧
      s.isConfigured sigmaName = true ∧ s.isConfigured minimumName = true := by
  intro s
  have hload : conflictingEntry.load smallRegistry =
      .error [.thresholds (.conflicting ConstructorSize.ruleName)] := rfl
  have hrule : builtinRule? smallRegistry conflictingEntry.name =
      some (ConstructorSize.rule smallRegistry) := rfl
  obtain ⟨failing, -, -, hreported⟩ := rejected_entries hrule
  obtain ⟨-, -, hconflict⟩ := hreported _ hload
  exact ⟨hload, (hconflict.mp List.mem_cons_self).1⟩

/-- The conflict of the thresholds is there, but only the other mistake is reported. -/
theorem conflict_hidden_by_unknown_property :
    let rule := ConstructorSize.rule smallRegistry
    let s := (rule.configureAll muddledEntry.properties.entries).1.properties
    builtinRule? smallRegistry muddledEntry.name = some rule ∧
      s.isConfigured sigmaName = true ∧ s.isConfigured minimumName = true ∧
      muddledEntry.load smallRegistry =
        .error [.property (.unknownProperty ConstructorSize.ruleName "colour")] ∧
      conflictingEntry.load smallRegistry =
        .error [.thresholds (.conflicting ConstructorSize.ruleName)] := by
  refine ⟨rfl, ?_, ?_, rfl, ?_⟩
  · decide +kernel
  · decide +kernel
  · rfl

end RuleMetrics
