import RuleMetrics.Proofs.Decimal.Count
import RuleMetrics.Proofs.Except
import RuleMetrics.Proofs.Registry.Catalog
import RuleMetrics.Proofs.Rule.Measurement
import RuleMetrics.Proofs.Rule.Message
import RuleMetrics.Run.Runner

/-!
# Reported constructors

Measuring, selecting and wording together: under a fixed minimum `m` the rule reports each
constructor whose count is at least `m` once, and no other, in preorder
(`large_constructors_reported`).  What is reported of a constructor is its own line and label, and
its count in digits.

The count is the one by recursion on the tree (`count`).  It is compared with `m` as numbers are,
which needs that the counts of the file are held exactly, below `2 ^ 53`.  Labels may contain
braces, since a message does not look into its parameters (`format_message`).
-/

namespace RuleMetrics

/-! ## Configured rules -/

/-- Configuring properties changes nothing else of a rule. -/
lemma Rule.eq_of_configured {r r' : Rule} {calls : List (String × RawValue)}
    (h : calls.foldlM (fun r call => r.configure call.1 call.2) r = Except.ok r') :
    r' = { r with properties := r'.properties } := by
  refine List.foldlM_induction (fun _ r' => r' = { r with properties := r'.properties }) rfl ?_ h
  intro done call rest before after _ hbefore hstep
  obtain ⟨properties, -, rfl⟩ := Except.map_eq_ok_iff.mp hstep
  rw [hbefore]

lemma Rule.configure_eq_ok {r : Rule} {name : String} {raw : RawValue} {d : Descriptor}
    {v : TypedValue} (hdescriptor : r.properties.descriptor? name = some d)
    (hread : PropertySet.readRaw d raw = .ok v) (hallowed : d.problem v = none) :
    r.configure name raw = .ok { r with properties := { r.properties with
      stored := PropertySet.insertStored name v r.properties.stored } } := by
  unfold Rule.configure PropertySet.configure
  simp only [hdescriptor, hread, hallowed]
  rfl

lemma ConfiguredRule.eq_of_ofRule {r : Rule} {severity : Severity} {c : ConfiguredRule}
    (h : ofRule r severity = .ok c) : c.rule = r ∧ c.severity = severity := by
  obtain ⟨selector, -, rfl⟩ := Except.map_eq_ok_iff.mp h
  exact ⟨rfl, rfl⟩

/-- Without a limit on their number, the points that reach a minimum are selected. -/
lemma Selector.select_minimum {α : Type} [ScoreNumber α] (m : α) (points : List (DataPoint α)) :
    Selector.select ⟨.minimum m, none⟩ points =
      points.filter fun p => p.isUsable && ScoreNumber.atLeast p.score m := by
  unfold select Policy.flagged
  simp only [Policy.test?, List.filter_filter]
  simp only [Bool.and_comm]

namespace ConstructorSize

/-! ## Messages -/

/-- The message of the rule, whatever the two texts are. -/
lemma format_message (registry : Registry) (label count : String) :
    Template.format (rule registry).message [label, count] =
      "The constructor " ++ label ++ " has an NCSS line count of " ++ count := by
  have hmessage : "The constructor \x7b0\x7d has an NCSS line count of \x7b1\x7d".toList =
      "The constructor ".toList ++ '\x7b' :: '0' :: '\x7d' ::
        (" has an NCSS line count of ".toList ++ ['\x7b', '1', '\x7d']) := by
    decide
  apply String.toList_inj.mp
  unfold Template.format rule
  dsimp only
  rw [String.toList_ofList, hmessage, Template.fill_text_append (by decide),
    Template.fill_slot (by rfl), Template.fill_text_append (by decide),
    Template.fill_slot (by rfl), Template.tokens, List.flatMap_nil, List.append_nil]
  simp only [String.toList_append, List.append_assoc]
  rfl

/-! ## Large constructors -/

/-- The count of a constructor: one and the statements of its body, if it has one. -/
def count (ignored : List MethodSignature) (constructor : SyntaxTree) : Nat :=
  1 + (constructor.childInField "body").elim 0 (statements ignored)

/-- The constructors of a file in preorder, with their places among them. -/
def numbered (source : Source) : List (SyntaxTree × Nat) :=
  ((SyntaxTree.preorderAll source.tree).filter fun t =>
    t.kind == "constructor_declaration").zipIdx

/-- The constructors of a file whose count is at least `m`. -/
def large (ignored : List MethodSignature) (m : Float) (source : Source) :
    List (SyntaxTree × Nat) :=
  (numbered source).filter fun e =>
    decide ((Decimal.Double.ofFloat m).AtMost (count ignored e.1))

variable {ignored : List MethodSignature} {m : Float} {source : Source}

/-- The selected points are those of the large constructors. -/
lemma select_measureAll (hcounts : ∀ e ∈ numbered source, count ignored e.1 < 2 ^ 53) :
    Selector.select ⟨.minimum m, none⟩ (measureAll ignored (constructors source.tree)).points =
      (large ignored m source).map fun e =>
        ⟨e.2, Decimal.floatOfNat (count ignored e.1), e.2⟩ := by
  have hscore : constructorScore ignored = count ignored := funext (constructorScore_eq ignored)
  rw [Selector.select_minimum, points_measureAll, hscore, constructors_eq_filter, List.filter_map]
  unfold large
  congr 1
  apply List.filter_congr
  intro e he
  have hcount := hcounts e he
  have husable := Decimal.usable_floatOfNat hcount
  have hleast : ScoreNumber.atLeast (Decimal.floatOfNat (count ignored e.1)) m =
      decide ((Decimal.Double.ofFloat m).AtMost (count ignored e.1)) := by
    rw [Bool.eq_iff_iff, decide_eq_true_iff]
    exact Decimal.atMost_floatOfNat_iff hcount
  simp only [Function.comp_apply, DataPoint.isUsable, husable, hleast, Bool.true_and]

lemma label?_of_mem {e : SyntaxTree × Nat} (he : e ∈ numbered source) :
    (measureAll ignored (constructors source.tree)).label? e.2 = some (shown e.1) := by
  have hplace := List.mk_mem_zipIdx_iff_getElem?.mp he
  rw [label?_measureAll, constructors_eq_filter, hplace]
  rfl

lemma apply_measureAll {c : ConfiguredRule} (hselector : c.selector = ⟨.minimum m, none⟩)
    (hcounts : ∀ e ∈ numbered source, count ignored e.1 < 2 ^ 53) :
    c.apply (measureAll ignored (constructors source.tree)) =
      (large ignored m source).map fun e =>
        ⟨e.2, [constructorLabel e.1, toString (count ignored e.1)]⟩ := by
  unfold ConfiguredRule.apply Selector.violations
  rw [hselector, select_measureAll hcounts, List.map_map]
  apply List.map_congr_left
  intro e he
  have hmem : e ∈ numbered source := List.mem_of_mem_filter he
  have hlabel : (measureAll ignored (constructors source.tree)).label? e.2 = some (shown e.1) :=
    label?_of_mem hmem
  have htext := Decimal.scoreText_floatOfNat (hcounts e hmem)
  simp [Measurements.identify, hlabel, htext, shown]

/-- What the rule does beside selecting, however it is configured. -/
lemma behaviour_of_configured {registry : Registry} {calls : List (String × RawValue)} {r : Rule}
    {severity : Severity} {c : ConfiguredRule}
    (hconfigured : calls.foldlM (fun r call => r.configure call.1 call.2) (rule registry) =
      Except.ok r)
    (hrule : ConfiguredRule.ofRule r severity = .ok c) :
    c.name = ruleName ∧ c.severity = severity ∧
      (∀ source, c.measure source = .ok
        (measureAll (r.properties.methods ignoredCallsName) (constructors source.tree))) ∧
      ∀ node label count, c.message ⟨node, [label, count]⟩ =
        "The constructor " ++ label ++ " has an NCSS line count of " ++ count := by
  have hr := Rule.eq_of_configured hconfigured
  obtain ⟨hrule, hseverity⟩ := ConfiguredRule.eq_of_ofRule hrule
  unfold ConfiguredRule.name ConfiguredRule.measure ConfiguredRule.message
  rw [hrule, hr]
  exact ⟨rfl, hseverity, fun _ => rfl, fun _ => format_message registry⟩

/-- **Large constructors are reported.**  Configure the rule by calls that all succeed, with a fixed
minimum `m` and no limit on the number of reports.  In every file its violations are those of the
constructors whose count is at least `m`, in preorder: the parameters are the label and the decimal
text of the count, and the report has the line of the constructor and the message in words. -/
theorem large_constructors_reported (registry : Registry) (calls : List (String × RawValue))
    {r : Rule} {severity : Severity} {c : ConfiguredRule} {m : Float}
    (hconfigured : calls.foldlM (fun r call => r.configure call.1 call.2) (rule registry) =
      Except.ok r)
    (hrule : ConfiguredRule.ofRule r severity = .ok c)
    (hselector : c.selector = ⟨.minimum m, none⟩) (file : String) (source : Source)
    (hcounts : ∀ e ∈ numbered source,
      count (r.properties.methods ignoredCallsName) e.1 < 2 ^ 53) :
    let ignored := r.properties.methods ignoredCallsName
    ∃ measured, c.measure source = .ok measured ∧
      c.apply measured = (large ignored m source).map (fun e =>
        ⟨e.2, [constructorLabel e.1, toString (count ignored e.1)]⟩) ∧
      Runner.violationsOf c file source = .ok ((large ignored m source).map fun e =>
        { rule := ruleName
          file
          line := e.1.label.row + 1
          message := "The constructor " ++ constructorLabel e.1 ++
            " has an NCSS line count of " ++ toString (count ignored e.1)
          parameters := [constructorLabel e.1, toString (count ignored e.1)]
          severity }) := by
  intro ignored
  obtain ⟨hname, hseverity, hmeasure, hmessage⟩ := behaviour_of_configured hconfigured hrule
  have happly := apply_measureAll hselector hcounts
  refine ⟨_, hmeasure source, happly, ?_⟩
  unfold Runner.violationsOf
  rw [hmeasure]
  dsimp only [bind, Except.bind, pure, Except.pure]
  rw [happly, List.map_map]
  congr 1
  apply List.map_congr_left
  intro e he
  have hlabel : (measureAll ignored (constructors source.tree)).label? e.2 = some (shown e.1) :=
    label?_of_mem (List.mem_of_mem_filter he)
  dsimp only [Function.comp_apply]
  rw [hname, hmessage, hlabel, hseverity]
  rfl

/-! ## A sample -/

/-- A rule that counts no calls of `hash` and reports from a count of three on. -/
def smallRule : ConfiguredRule where
  rule := { rule smallRegistry with
    properties := { properties smallRegistry with
      stored := [(ignoredCallsName, .method (.multi [⟨⟨0⟩, "hash", []⟩])),
        (minimumName, .float (.single (Float.ofBits 0x4008000000000000)))] } }
  selector := ⟨.minimum (Float.ofBits 0x4008000000000000), none⟩
  severity := .warning

/-- A class with two constructors.  The first has a call of `hash` and an `if` with an `else`, and
braces in the type of its parameter; the second has no statements. -/
def smallSource : Source where
  content := ByteArray.empty
  tree := [sampleNode "class_body" none "" 0 [
    sampleNode "constructor_declaration" none "" 1 [
      sampleNode "identifier" (some "name") "A" 1 [],
      sampleNode "formal_parameters" (some "parameters") "" 1 [
        sampleNode "formal_parameter" none "" 1 [
          sampleNode "generic_type" (some "type") "T\x7b1\x7d" 1 []]],
      sampleNode "constructor_body" (some "body") "" 1 [
        sampleNode "expression_statement" none "" 2 [
          sampleNode "method_invocation" none "" 2 [
            sampleNode "identifier" (some "name") "hash" 2 [],
            sampleNode "argument_list" (some "arguments") "" 2 []]],
        sampleNode "if_statement" none "" 3 [
          sampleNode "block" (some "alternative") "" 4 []]]],
    sampleNode "constructor_declaration" none "" 6 [
      sampleNode "identifier" (some "name") "A" 6 [],
      sampleNode "constructor_body" (some "body") "" 6 []]]]

theorem large_constructors_reported_of_smallSource :
    Runner.violationsOf smallRule "A.java" smallSource = .ok [
      { rule := ruleName
        file := "A.java"
        line := 2
        message := "The constructor A(T\x7b1\x7d) has an NCSS line count of 3"
        parameters := ["A(T\x7b1\x7d)", "3"]
        severity := .warning }] := by
  have hmethods : (ItemFormat.method smallRegistry (.ofList ["java.lang", "java.util"])).readText
      (some ' ') "Object#hash()" = .ok (.multi [⟨⟨0⟩, "hash", []⟩]) := by
    decide +kernel
  have hminimum : (ItemFormat.float (Decimal.floatOfNat 0) maxDouble).readText none "3" =
      .ok (.single (Float.ofBits 0x4008000000000000)) := by
    decide +kernel
  have hallowed : (ItemFormat.float (Decimal.floatOfNat 0) maxDouble).valueProblem
      (.single (Float.ofBits 0x4008000000000000)) = none := by
    decide +kernel
  have hfirst : (rule smallRegistry).configure ignoredCallsName (.text "Object#hash()") =
      .ok { rule smallRegistry with properties := { properties smallRegistry with
        stored := [(ignoredCallsName, .method (.multi [⟨⟨0⟩, "hash", []⟩]))] } } := by
    apply Rule.configure_eq_ok (d := ignoredCallsDescriptor smallRegistry) (by rfl)
    · exact congrArg (Except.map TypedValue.method) hmethods
    · rfl
  have hconfigured : [(ignoredCallsName, RawValue.text "Object#hash()"),
      (minimumName, RawValue.text "3")].foldlM (fun r call => r.configure call.1 call.2)
      (rule smallRegistry) = Except.ok smallRule.rule := by
    rw [List.foldlM_cons, Except.bind_eq_ok_iff]
    refine ⟨_, hfirst, ?_⟩
    rw [List.foldlM_cons, Except.bind_eq_ok_iff]
    refine ⟨smallRule.rule, ?_, rfl⟩
    exact Rule.configure_eq_ok (d := minimumDescriptor (some (Decimal.floatOfNat 100))) (by rfl)
      (congrArg (Except.map TypedValue.float) hminimum) hallowed
  have hrule : ConfiguredRule.ofRule smallRule.rule .warning = .ok smallRule := rfl
  obtain ⟨measured, -, -, hreported⟩ := large_constructors_reported smallRegistry _ hconfigured
    hrule rfl "A.java" smallSource (by decide +kernel)
  rw [hreported]
  exact congrArg Except.ok (by decide +kernel)

end ConstructorSize

end RuleMetrics
