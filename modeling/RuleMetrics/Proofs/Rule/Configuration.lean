import Mathlib.Data.List.Nodup
import RuleMetrics.Proofs.Property.Storage
import RuleMetrics.RuleSet.Load

/-!
# Configuring the properties of a rule

The properties of a rule are configured one after the other, on a rule that the earlier ones have
changed, and those that fail are passed over.  None of them has an influence on another:
`configureAll_eq` says that a property is accepted or not, and with which value or which problem, as
it would be on the rule at the start.

So the problems of many properties are the problems that each causes by itself
(`failsWith_failing`), and an accepted property reads as it would if it were the only one, which is
as the value of its own text or list (`value?_configureAll`, `acceptValue_eq_ok_iff`).
-/

namespace RuleMetrics.Rule

variable {r : Rule} {name : String} {v : DocumentValue} {w : TypedValue} {problem : RuleProblem}
  {properties : List (String × DocumentValue)}

/-- The value that a property gets from a document, or its problem. -/
def acceptValue (r : Rule) (name : String) (v : DocumentValue) : Except RuleProblem TypedValue :=
  match v.raw? with
  | none => .error (.notScalar name)
  | some raw => (r.properties.accept name raw).mapError RuleProblem.property

/-- The rule with some values stored. -/
def storeAll (r : Rule) (values : List (String × TypedValue)) : Rule :=
  { r with properties := r.properties.storeAll values }

/-- The properties that can be configured, with their values. -/
def accepted (r : Rule) (properties : List (String × DocumentValue)) :
    List (String × TypedValue) :=
  properties.filterMap fun e => (r.acceptValue e.1 e.2).toOption.map fun w => (e.1, w)

/-- The properties that cannot be configured, with their problems. -/
def failing (r : Rule) (properties : List (String × DocumentValue)) :
    List (String × RuleProblem) :=
  properties.filterMap fun e =>
    match r.acceptValue e.1 e.2 with
    | .ok _ => none
    | .error problem => some (e.1, problem)

lemma configureValue_eq (r : Rule) (name : String) (v : DocumentValue) :
    r.configureValue name v = (r.acceptValue name v).map fun w => r.storeAll [(name, w)] := by
  unfold configureValue acceptValue configure
  cases v.raw? with
  | none => rfl
  | some raw =>
    dsimp only
    rw [PropertySet.configure_eq]
    cases r.properties.accept name raw <;> rfl

/-- What is stored does not matter to the reading of values. -/
lemma acceptValue_storeAll (r : Rule) (values : List (String × TypedValue)) :
    (r.storeAll values).acceptValue = r.acceptValue := by
  funext name v
  unfold acceptValue storeAll
  dsimp only
  rw [PropertySet.accept_storeAll]

lemma accepted_storeAll (r : Rule) (values : List (String × TypedValue)) :
    (r.storeAll values).accepted = r.accepted := by
  unfold accepted
  rw [acceptValue_storeAll]

lemma failing_storeAll (r : Rule) (values : List (String × TypedValue)) :
    (r.storeAll values).failing = r.failing := by
  unfold failing
  rw [acceptValue_storeAll]

/-- Each property is configured, or not, as it would be by itself. -/
lemma configureAll_eq (r : Rule) (properties : List (String × DocumentValue)) :
    r.configureAll properties =
      (r.storeAll (r.accepted properties), (r.failing properties).map Prod.snd) := by
  induction properties generalizing r with
  | nil => rfl
  | cons e properties ih =>
    obtain ⟨name, v⟩ := e
    unfold configureAll
    rw [configureValue_eq]
    cases haccept : r.acceptValue name v with
    | error problem =>
      have haccepted : r.accepted ((name, v) :: properties) = r.accepted properties := by
        simp [accepted, haccept, Except.toOption]
      have hfailing : r.failing ((name, v) :: properties) =
          (name, problem) :: r.failing properties := by
        simp [failing, haccept]
      rw [haccepted, hfailing]
      simp only [Except.map, ih, List.map_cons]
    | ok w =>
      have haccepted : r.accepted ((name, v) :: properties) =
          (name, w) :: r.accepted properties := by
        simp [accepted, haccept, Except.toOption]
      have hfailing : r.failing ((name, v) :: properties) = r.failing properties := by
        simp [failing, haccept]
      rw [haccepted, hfailing]
      simp only [Except.map, ih, accepted_storeAll, failing_storeAll]
      rfl

/-! ## Problems -/

/-- The properties of a table that cannot be configured on the rule, each once, in ascending order
of their names and with the problem that each causes by itself. -/
structure FailsWith (r : Rule) (properties : Text.Table DocumentValue)
    (failing : List (String × RuleProblem)) : Prop where
  ascending : failing.Pairwise fun a b => a.1 < b.1
  mem_iff : ∀ name problem, (name, problem) ∈ failing ↔
    ∃ v, (name, v) ∈ properties.entries ∧ r.configureValue name v = .error problem

lemma mem_failing : (name, problem) ∈ r.failing properties ↔
    ∃ v, (name, v) ∈ properties ∧ r.configureValue name v = .error problem := by
  unfold failing
  simp only [List.mem_filterMap, configureValue_eq, Except.map_eq_error_iff]
  constructor
  · rintro ⟨⟨name', v⟩, hmem, hsome⟩
    split at hsome
    · cases hsome
    next haccept =>
      cases hsome
      exact ⟨v, hmem, haccept⟩
  · rintro ⟨v, hmem, haccept⟩
    exact ⟨(name, v), hmem, by simp [haccept]⟩

/-- Entries that keep their keys keep their order. -/
lemma ascending_filterMap {α : Type} {f : String × DocumentValue → Option (String × α)}
    (hkey : ∀ e e', f e = some e' → e'.1 = e.1)
    (h : properties.Pairwise fun a b => a.1 < b.1) :
    (properties.filterMap f).Pairwise fun a b => a.1 < b.1 := by
  refine h.filterMap f ?_
  intro a b hlt a' ha b' hb
  rw [hkey a a' ha, hkey b b' hb]
  exact hlt

lemma failsWith_failing (r : Rule) (properties : Text.Table DocumentValue) :
    r.FailsWith properties (r.failing properties.entries) where
  ascending := by
    refine ascending_filterMap ?_ properties.ascending
    intro e e' h
    split at h
    · cases h
    · cases h
      rfl
  mem_iff _ _ := mem_failing

lemma failing_eq_nil_iff : r.failing properties = [] ↔
    ∀ e ∈ properties, ∃ r', r.configureValue e.1 e.2 = .ok r' := by
  unfold failing
  rw [List.filterMap_eq_nil_iff]
  refine forall₂_congr fun e _ => ?_
  rw [configureValue_eq]
  cases r.acceptValue e.1 e.2 <;> simp [Except.map]

/-! ## Values -/

/-- A property is accepted with the value that its descriptor reads from the text or the list. -/
lemma acceptValue_eq_ok_iff : r.acceptValue name v = .ok w ↔
    ∃ d raw, r.properties.descriptor? name = some d ∧ v.raw? = some raw ∧
      PropertySet.readRaw d raw = .ok w ∧ d.problem w = none := by
  unfold acceptValue
  cases v.raw? with
  | none => simp
  | some raw =>
    dsimp only
    rw [Except.mapError_eq_ok_iff, PropertySet.accept_eq_ok_iff]
    simp only [Option.some.injEq, exists_and_left, exists_eq_left']

lemma mem_accepted : (name, w) ∈ r.accepted properties ↔
    ∃ v, (name, v) ∈ properties ∧ r.acceptValue name v = .ok w := by
  unfold accepted
  simp only [List.mem_filterMap, Option.map_eq_some_iff, Prod.mk.injEq]
  constructor
  · rintro ⟨⟨name', v⟩, hmem, w', hsome, rfl, rfl⟩
    refine ⟨v, hmem, ?_⟩
    cases haccept : r.acceptValue name' v with
    | error problem => simp [haccept, Except.toOption] at hsome
    | ok w'' => simpa [haccept, Except.toOption] using hsome
  · rintro ⟨v, hmem, haccept⟩
    exact ⟨(name, v), hmem, w, by simp [haccept, Except.toOption], rfl, rfl⟩

lemma nodup_accepted (r : Rule) (h : properties.Pairwise fun a b => a.1 < b.1) :
    ((r.accepted properties).map Prod.fst).Nodup := by
  have hascending : (r.accepted properties).Pairwise fun a b => a.1 < b.1 := by
    refine ascending_filterMap ?_ h
    intro e e' hsome
    obtain ⟨w, -, rfl⟩ := Option.map_eq_some_iff.mp hsome
    rfl
  rw [List.Nodup, List.pairwise_map]
  refine hascending.imp ?_
  intro a b hlt heq
  rw [heq] at hlt
  exact String.lt_irrefl _ hlt

/-- An accepted property reads as it does when it is the only one that is configured. -/
lemma value?_configureAll {alone : Rule} (h : properties.Pairwise fun a b => a.1 < b.1)
    (hmem : (name, v) ∈ properties) (halone : r.configureValue name v = .ok alone) :
    ∃ w, r.acceptValue name v = .ok w ∧ alone.properties.value? name = some w ∧
      (r.configureAll properties).1.properties.value? name = some w := by
  rw [configureValue_eq] at halone
  obtain ⟨w, haccept, rfl⟩ := Except.map_eq_ok_iff.mp halone
  refine ⟨w, haccept, PropertySet.value?_store r.properties name w, ?_⟩
  rw [configureAll_eq]
  exact PropertySet.value?_storeAll_of_mem r.properties (nodup_accepted r h)
    (mem_accepted.mpr ⟨v, hmem, haccept⟩)

end RuleMetrics.Rule
