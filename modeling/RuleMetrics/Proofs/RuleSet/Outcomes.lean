import RuleMetrics.Proofs.Registry.Catalog
import RuleMetrics.Proofs.Rule.Configuration

/-!
# Outcomes of loading a rule set

Every entry of a rule set is configured or rejected by itself.  `Accounts` says so of a report:
going through the entries in order, each has put one rule or one failure with a problem into the
report, and nothing else is in it.

What decides about an entry of a known rule is described by `RuleEntry.Judged`.  Problems of single
properties come first.  If there is one, the entry is rejected with all of them; if there is none,
it stands or falls with its thresholds, and each of its properties reads as the value of its own
text or list, as it would if it stood alone.
-/

namespace RuleMetrics

variable {registry : Registry} {entry : RuleEntry} {rule : Rule}

/-! ## Reports -/

/-- One report after another. -/
def LoadReport.append (a b : LoadReport) : LoadReport :=
  ⟨a.rules ++ b.rules, a.failures ++ b.failures⟩

/-- The report has one outcome for each entry, in order: a configured rule, or a failure under the
name of the entry with at least one problem. -/
inductive Accounts (registry : Registry) : List RuleEntry → LoadReport → Prop where
  | nil : Accounts registry [] ⟨[], []⟩
  | configured {entry : RuleEntry} {entries : List RuleEntry} {report : LoadReport}
      {c : ConfiguredRule} (hload : entry.load registry = .ok c)
      (hrest : Accounts registry entries report) :
      Accounts registry (entry :: entries) ⟨c :: report.rules, report.failures⟩
  | rejected {entry : RuleEntry} {entries : List RuleEntry} {report : LoadReport}
      {problems : List RuleProblem} (hload : entry.load registry = .error problems)
      (hproblems : problems ≠ []) (hrest : Accounts registry entries report) :
      Accounts registry (entry :: entries)
        ⟨report.rules, ⟨entry.name, problems.map RuleProblem.message⟩ :: report.failures⟩

/-- Loading goes through the entries one by one. -/
lemma RuleSet.load_cons (s : RuleSet) (entry : RuleEntry) (entries : List RuleEntry) :
    ({ s with rules := entry :: entries } : RuleSet).load registry =
      let report := ({ s with rules := entries } : RuleSet).load registry
      match entry.load registry with
      | .ok c => ⟨c :: report.rules, report.failures⟩
      | .error problems =>
        ⟨report.rules, ⟨entry.name, problems.map RuleProblem.message⟩ :: report.failures⟩ := by
  unfold RuleSet.load
  cases hload : entry.load registry <;> simp [hload, Except.toOption]

lemma RuleSet.load_append (s : RuleSet) (entries entries' : List RuleEntry) :
    ({ s with rules := entries ++ entries' } : RuleSet).load registry =
      (({ s with rules := entries } : RuleSet).load registry).append
        (({ s with rules := entries' } : RuleSet).load registry) := by
  unfold RuleSet.load LoadReport.append
  simp only [List.map_append, List.filterMap_append]

/-! ## Entries -/

/-- Problems of properties are all that is reported of an entry that has any. -/
lemma RuleEntry.load_of_failing (hrule : builtinRule? registry entry.name = some rule)
    (hfailing : rule.failing entry.properties.entries ≠ []) :
    entry.load registry =
      .error ((rule.failing entry.properties.entries).map Prod.snd) := by
  unfold RuleEntry.load
  rw [hrule]
  dsimp only
  rw [Rule.configureAll_eq]
  cases hproblems : rule.failing entry.properties.entries with
  | nil => exact absurd hproblems hfailing
  | cons problem problems => rfl

/-- Without problems of properties the thresholds decide. -/
lemma RuleEntry.load_of_not_failing (hrule : builtinRule? registry entry.name = some rule)
    (hfailing : rule.failing entry.properties.entries = []) :
    entry.load registry =
      (ConfiguredRule.ofRule (rule.configureAll entry.properties.entries).1
        (entry.severity.getD .standard)).mapError fun e => [.thresholds e] := by
  unfold RuleEntry.load
  rw [hrule]
  dsimp only
  rw [Rule.configureAll_eq, hfailing]
  rfl

lemma ConfiguredRule.ofRule_eq_error_iff {r : Rule} {severity : Severity} {e : ThresholdError} :
    ofRule r severity = .error e ↔ selectorFor r.name r.properties = .error e :=
  Except.map_eq_error_iff

lemma RuleEntry.load_eq_error_iff_of_not_failing
    (hrule : builtinRule? registry entry.name = some rule)
    (hfailing : rule.failing entry.properties.entries = []) {problems : List RuleProblem} :
    entry.load registry = .error problems ↔
      ∃ e, selectorFor rule.name (rule.configureAll entry.properties.entries).1.properties =
        .error e ∧ problems = [.thresholds e] := by
  have hname : (rule.configureAll entry.properties.entries).1.name = rule.name := by
    rw [Rule.configureAll_eq]
    rfl
  rw [RuleEntry.load_of_not_failing hrule hfailing, Except.mapError_eq_error_iff]
  refine exists_congr fun e => ?_
  rw [ConfiguredRule.ofRule_eq_error_iff, hname]
  exact and_congr_right fun _ => eq_comm

/-- A rejected entry has a problem. -/
lemma RuleEntry.ne_nil_of_load {problems : List RuleProblem}
    (h : entry.load registry = .error problems) : problems ≠ [] := by
  cases hrule : builtinRule? registry entry.name with
  | none =>
    unfold RuleEntry.load at h
    rw [hrule] at h
    cases h
    exact List.cons_ne_nil _ _
  | some rule =>
    by_cases hfailing : rule.failing entry.properties.entries = []
    · obtain ⟨e, -, rfl⟩ := (RuleEntry.load_eq_error_iff_of_not_failing hrule hfailing).mp h
      exact List.cons_ne_nil _ _
    · rw [RuleEntry.load_of_failing hrule hfailing] at h
      cases h
      simpa using hfailing

lemma accounts_load (registry : Registry) (s : RuleSet) :
    Accounts registry s.rules (s.load registry) := by
  suffices hentries : ∀ entries, Accounts registry entries
      (({ s with rules := entries } : RuleSet).load registry) from hentries s.rules
  intro entries
  induction entries with
  | nil => exact Accounts.nil
  | cons entry entries ih =>
    rw [RuleSet.load_cons]
    cases hload : entry.load registry with
    | ok c => exact Accounts.configured hload ih
    | error problems => exact Accounts.rejected hload (RuleEntry.ne_nil_of_load hload) ih

/-- The rule that a configured entry became. -/
lemma RuleEntry.rule_of_load (hrule : builtinRule? registry entry.name = some rule)
    {c : ConfiguredRule} (h : entry.load registry = .ok c) :
    rule.failing entry.properties.entries = [] ∧
      c.rule = (rule.configureAll entry.properties.entries).1 := by
  by_cases hfailing : rule.failing entry.properties.entries = []
  · rw [RuleEntry.load_of_not_failing hrule hfailing] at h
    refine ⟨hfailing, ?_⟩
    unfold ConfiguredRule.ofRule at h
    cases hselector : selectorFor (rule.configureAll entry.properties.entries).1.name
        (rule.configureAll entry.properties.entries).1.properties with
    | error e =>
      rw [hselector] at h
      cases h
    | ok selector =>
      rw [hselector] at h
      cases h
      rfl
  · rw [RuleEntry.load_of_failing hrule hfailing] at h
    cases h

/-- What decides about an entry that names `rule`. -/
structure RuleEntry.Judged (entry : RuleEntry) (registry : Registry) (rule : Rule) : Prop where
  /-- If single properties have problems, those are reported. -/
  properties : ∃ failing, rule.FailsWith entry.properties failing ∧
    (failing ≠ [] → entry.load registry = .error (failing.map Prod.snd))
  /-- If they have none, the entry is rejected when its properties give no selector. -/
  thresholds : (∀ e ∈ entry.properties.entries, ∃ r, rule.configureValue e.1 e.2 = .ok r) →
    ∃ configured, rule.configureAll entry.properties.entries = (configured, []) ∧
      ∀ problems, entry.load registry = .error problems ↔
        ∃ e, selectorFor rule.name configured.properties = .error e ∧ problems = [.thresholds e]
  /-- The properties of a configured rule read as the values of their texts and lists, and so does
  each by itself. -/
  read_back : ∀ c, entry.load registry = .ok c →
    ∀ name v, (name, v) ∈ entry.properties.entries →
      ∃ alone w, rule.configureValue name v = .ok alone ∧
        (∃ d raw, rule.properties.descriptor? name = some d ∧ v.raw? = some raw ∧
          PropertySet.readRaw d raw = .ok w) ∧
        alone.properties.value? name = some w ∧ c.rule.properties.value? name = some w

lemma RuleEntry.judged (hrule : builtinRule? registry entry.name = some rule) :
    entry.Judged registry rule where
  properties :=
    ⟨rule.failing entry.properties.entries, rule.failsWith_failing entry.properties,
      RuleEntry.load_of_failing hrule⟩
  thresholds := by
    intro hall
    have hfailing := Rule.failing_eq_nil_iff.mpr hall
    refine ⟨(rule.configureAll entry.properties.entries).1, ?_, ?_⟩
    · rw [Rule.configureAll_eq, hfailing]
      rfl
    · exact fun problems => RuleEntry.load_eq_error_iff_of_not_failing hrule hfailing
  read_back := by
    intro c hload name v hmem
    obtain ⟨hfailing, hc⟩ := RuleEntry.rule_of_load hrule hload
    obtain ⟨alone, halone⟩ := Rule.failing_eq_nil_iff.mp hfailing (name, v) hmem
    obtain ⟨w, haccept, hw, hconfigured⟩ :=
      Rule.value?_configureAll entry.properties.ascending hmem halone
    obtain ⟨d, raw, hd, hraw, hread, -⟩ := Rule.acceptValue_eq_ok_iff.mp haccept
    exact ⟨alone, w, halone, ⟨d, raw, hd, hraw, hread⟩, hw, by rw [hc, hconfigured]⟩

/-- A property of a configured rule reads as what its descriptor makes of its raw value. -/
lemma RuleEntry.Judged.value?_of_readRaw (h : entry.Judged registry rule) {c : ConfiguredRule}
    (hload : entry.load registry = .ok c) {name : String} {v : DocumentValue}
    (hmem : (name, v) ∈ entry.properties.entries) {d : Descriptor} {raw : RawValue}
    {w : TypedValue} (hd : rule.properties.descriptor? name = some d) (hraw : v.raw? = some raw)
    (hread : PropertySet.readRaw d raw = .ok w) :
    ∃ alone, rule.configureValue name v = .ok alone ∧ alone.properties.value? name = some w ∧
      c.rule.properties.value? name = some w := by
  obtain ⟨alone, w', halone, ⟨d', raw', hd', hraw', hread'⟩, hvalue, hconfigured⟩ :=
    h.read_back c hload name v hmem
  obtain rfl := Option.some.inj (hd.symm.trans hd')
  obtain rfl := Option.some.inj (hraw.symm.trans hraw')
  obtain rfl := Except.ok.inj (hread.symm.trans hread')
  exact ⟨alone, halone, hvalue, hconfigured⟩

/-- **Rules are loaded one by one.**  The report of a rule set has one outcome for each entry, in
order; loading one list of entries after another gives one report after the other; and what decides
about an entry of a known rule is that entry alone. -/
theorem rules_loaded_apart (registry : Registry) :
    (∀ s : RuleSet, Accounts registry s.rules (s.load registry)) ∧
      (∀ (s : RuleSet) (entries entries' : List RuleEntry),
        ({ s with rules := entries ++ entries' } : RuleSet).load registry =
          (({ s with rules := entries } : RuleSet).load registry).append
            (({ s with rules := entries' } : RuleSet).load registry)) ∧
      ∀ (entry : RuleEntry) (rule : Rule), builtinRule? registry entry.name = some rule →
        entry.Judged registry rule := by
  refine ⟨accounts_load registry, fun s entries entries' => s.load_append entries entries', ?_⟩
  exact fun entry rule hrule => RuleEntry.judged hrule

/-! ## Samples -/

/-- An entry whose properties can be configured, with values of three kinds. -/
def plainEntry : RuleEntry where
  name := ConstructorSize.ruleName
  severity := some .error
  properties :=
    ⟨[(ConstructorSize.ignoredCallsName, .list [.text "Object#hash()"]), (minimumName, .integer 25),
      (topScoreName, .null)], by decide⟩

/-- An entry that configures both thresholds. -/
def conflictingEntry : RuleEntry where
  name := ConstructorSize.ruleName
  severity := none
  properties := ⟨[(minimumName, .text "10"), (sigmaName, .text "2")], by decide⟩

/-- The same with a property that the rule does not have. -/
def muddledEntry : RuleEntry where
  name := ConstructorSize.ruleName
  severity := none
  properties :=
    ⟨[("colour", .text "red"), (minimumName, .text "10"), (sigmaName, .text "2")], by decide⟩

/-- One entry is configured and one rejected.  The minimum and the ignored calls of the first read
as the values of the number and of the list. -/
theorem rules_loaded_apart_of_samples :
    (∃ c, Accounts smallRegistry [muddledEntry, plainEntry]
      ⟨[c], [⟨ConstructorSize.ruleName,
        [(RuleProblem.property (.unknownProperty ConstructorSize.ruleName "colour")).message]⟩]⟩) ∧
    ∃ c alone, plainEntry.load smallRegistry = .ok c ∧
      (ConstructorSize.rule smallRegistry).configureValue minimumName (.integer 25) = .ok alone ∧
      PropertySet.readRaw (minimumDescriptor (some (Decimal.floatOfNat 100))) (.text "25") =
        .ok (.float (.single (Decimal.floatOfNat 25))) ∧
      alone.properties.value? minimumName = some (.float (.single (Decimal.floatOfNat 25))) ∧
      c.rule.properties.value? minimumName = some (.float (.single (Decimal.floatOfNat 25))) ∧
      c.rule.properties.value? ConstructorSize.ignoredCallsName =
        some (.method (.multi [⟨⟨0⟩, "hash", []⟩])) := by
  obtain ⟨haccounts, -, hjudged⟩ := rules_loaded_apart smallRegistry
  have hmuddled : muddledEntry.load smallRegistry =
      .error [.property (.unknownProperty ConstructorSize.ruleName "colour")] := rfl
  obtain ⟨c, hplain⟩ : ∃ c, plainEntry.load smallRegistry = .ok c := by
    have hok : (plainEntry.load smallRegistry).toBool = true := by decide +kernel
    cases hload : plainEntry.load smallRegistry with
    | error problems =>
      rw [hload] at hok
      cases hok
    | ok c => exact ⟨c, rfl⟩
  constructor
  · have hreport := haccounts { RuleSet.builtin with rules := [muddledEntry, plainEntry] }
    rw [RuleSet.load_cons, hmuddled, RuleSet.load_cons, hplain] at hreport
    exact ⟨c, hreport⟩
  · have hentry := hjudged plainEntry (ConstructorSize.rule smallRegistry) rfl
    have hminimum : (ItemFormat.float (Decimal.floatOfNat 0) maxDouble).readText none "25" =
        .ok (.single (Decimal.floatOfNat 25)) := by
      decide +kernel
    have hcalls : (ItemFormat.method smallRegistry (.ofList ["java.lang", "java.util"])).readItems
        (some ' ') ["Object#hash()"] = .ok (.multi [⟨⟨0⟩, "hash", []⟩]) := by
      decide +kernel
    have hnumber : PropertySet.readRaw (minimumDescriptor (some (Decimal.floatOfNat 100)))
        (.text "25") = .ok (.float (.single (Decimal.floatOfNat 25))) :=
      congrArg (Except.map TypedValue.float) hminimum
    have hlist : PropertySet.readRaw (ConstructorSize.ignoredCallsDescriptor smallRegistry)
        (.items ["Object#hash()"]) = .ok (.method (.multi [⟨⟨0⟩, "hash", []⟩])) :=
      congrArg (Except.map TypedValue.method) hcalls
    obtain ⟨alone, halone, hvalue, hconfigured⟩ := hentry.value?_of_readRaw hplain
      (List.mem_cons_of_mem _ List.mem_cons_self) rfl rfl hnumber
    obtain ⟨-, -, -, hconfigured'⟩ :=
      hentry.value?_of_readRaw hplain List.mem_cons_self rfl rfl hlist
    exact ⟨c, alone, hplain, halone, hnumber, hvalue, hconfigured, hconfigured'⟩

end RuleMetrics
