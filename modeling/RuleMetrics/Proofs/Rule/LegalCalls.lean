import RuleMetrics.Proofs.Property.Fallback
import RuleMetrics.Proofs.Registry.Catalog
import RuleMetrics.Rule.ConstructorSize

/-!
# Legal namespaces of ignored methods

A method property can be limited to namespaces.  The type that is checked is the one that declares
the method, which may be an ancestor of the type that the reference names, and a value is checked
before it is stored; so after any calls each method of the property is legal
(`Sound.allows_of_mem_methods`).

The rule limits `ignoredCalls` to `java.lang` and `java.util`.  A legal namespace is a prefix of
qualified names and not a package: `ignored_methods_legal` is about names that start with one of
the two texts, and `ignored_method_outside_packages` has a legal method of a type in the package
`java.language`.
-/

namespace RuleMetrics

/-! ## Legal items -/

lemma LegalNamespaces.allows_iff {n : LegalNamespaces} {name : String} :
    n.allows name = true ↔ n.prefixes = [] ∨ ∃ p ∈ n.prefixes, p.toList <+: name.toList := by
  simp [allows, isUnconstrained]

lemma LegalNamespaces.allows_of_problem {n : LegalNamespaces} {kind : PropertyKind}
    {text owner : String} (h : n.problem kind text owner = none) : n.allows owner = true := by
  unfold problem at h
  split at h
  next hallows => exact hallows
  · cases h

namespace PropertySet

variable {s : PropertySet} {name : String} {info : PropertyInfo} {registry : Registry}
  {legal : LegalNamespaces} {m : MethodSignature}

/-- The methods of a property without a default are declared by legal types. -/
lemma Sound.allows_of_mem_methods (h : s.Sound)
    (hd : s.descriptor? name = some (.method info .absent registry legal))
    (hm : m ∈ s.methods name) : legal.allows (registry.qualifiedName m.declaringType) = true := by
  unfold methods at hm
  cases hlookup : s.stored.lookup name with
  | none =>
    simp only [value?, hlookup, hd, Option.map_some, Descriptor.default, PropertyValue.items,
      List.not_mem_nil] at hm
  | some v =>
    obtain ⟨d, hd', hkind, hproblem⟩ := h.stored_allowed name v hlookup
    cases hd.symm.trans hd'
    obtain ⟨w, rfl⟩ := Descriptor.exists_wrap hkind
    rw [value?_of_lookup hlookup] at hm
    rw [Descriptor.problem_wrap] at hproblem
    exact LegalNamespaces.allows_of_problem (List.findSome?_eq_none_iff.mp hproblem m hm)

end PropertySet

namespace ConstructorSize

/-! ## Ignored methods -/

lemma sound_properties (registry : Registry) : (properties registry).Sound where
  names_nodup := by
    have hnames : (properties registry).descriptors.map Descriptor.name =
        [minimumName, sigmaName, topScoreName, ignoredCallsName] := rfl
    rw [hnames]
    decide
  stored_allowed := by
    intro name v hlookup
    cases hlookup

/-- **Ignored methods are legal.**  After any calls on the properties of the rule, also calls that
fail, the qualified name of the type that declares an ignored method starts with `java.lang` or
with `java.util`. -/
theorem ignored_methods_legal (registry : Registry) (calls : List SetCall) :
    ∀ m ∈ ((properties registry).run calls).methods ignoredCallsName,
      ∃ namespaceName ∈ ["java.lang", "java.util"],
        namespaceName.toList <+: (registry.qualifiedName m.declaringType).toList := by
  intro m hm
  have hsound : ((properties registry).run calls).Sound := (sound_properties registry).run calls
  have hd : ((properties registry).run calls).descriptor? ignoredCallsName =
      some (ignoredCallsDescriptor registry) := PropertySet.descriptor?_run rfl calls
  have hallows := LegalNamespaces.allows_iff.mp (hsound.allows_of_mem_methods hd hm)
  exact hallows.resolve_left (by decide)

/-! ## A sample -/

/-- A type outside of `java.lang` and `java.util`, with a parent inside. -/
def toolCatalog : Catalog where
  entries := [
    ⟨"java.lang.Object", none, [], ["hash()"]⟩,
    ⟨"java.language.Tool", some "Object", ["Tool"], ["run()"]⟩]

/-- The registry of `toolCatalog`. -/
def toolRegistry : Registry where
  types := [
    ⟨"java.lang.Object", none, [⟨"hash", []⟩]⟩,
    ⟨"java.language.Tool", some ⟨0⟩, [⟨"run", []⟩]⟩]
  aliases := [("Object", ⟨0⟩), ("Tool", ⟨1⟩)]
  shortNames := [some "Object", some "Tool"]

lemma build_toolCatalog : toolCatalog.build = .ok toolRegistry := by
  have htypes : toolCatalog.declareTypes = .ok
      (⟨[⟨"java.lang.Object", none, []⟩, ⟨"java.language.Tool", some ⟨0⟩, []⟩],
        toolRegistry.aliases⟩, toolCatalog.entries.mapIdx fun i entry => (⟨i⟩, entry)) := rfl
  have hmethods : (toolCatalog.entries.mapIdx fun i entry => (⟨i⟩, entry)).foldlM
      CatalogEntry.declareMethods
      ⟨[⟨"java.lang.Object", none, []⟩, ⟨"java.language.Tool", some ⟨0⟩, []⟩],
        toolRegistry.aliases⟩ = .ok ⟨toolRegistry.types, toolRegistry.aliases⟩ := by
    decide +kernel
  exact Catalog.build_of_halves htypes hmethods
    (Builder.build_of_ascending (by decide) (by decide))

/-- The type that is checked is the one that declares the method, not the one that is named. -/
theorem ignored_methods_legal_of_inherited :
    let s := (properties toolRegistry).run [.configure ignoredCallsName (.text "Tool#hash()")]
    s.methods ignoredCallsName = [⟨⟨0⟩, "hash", []⟩] ∧
      ∃ namespaceName ∈ ["java.lang", "java.util"],
        namespaceName.toList <+: (toolRegistry.qualifiedName ⟨0⟩).toList := by
  intro s
  have hmethods : s.methods ignoredCallsName = [⟨⟨0⟩, "hash", []⟩] := by decide +kernel
  refine ⟨hmethods, ignored_methods_legal toolRegistry
    [.configure ignoredCallsName (.text "Tool#hash()")] ⟨⟨0⟩, "hash", []⟩ ?_⟩
  have hmem : (⟨⟨0⟩, "hash", []⟩ : MethodSignature) ∈ s.methods ignoredCallsName := by
    rw [hmethods]
    exact List.mem_singleton_self _
  exact hmem

/-- A package that shares its first letters with `java.lang` is legal. -/
theorem ignored_method_outside_packages :
    toolCatalog.build = .ok toolRegistry ∧
      let s := (properties toolRegistry).run [.configure ignoredCallsName (.text "Tool#run()")]
      (⟨⟨1⟩, "run", []⟩ : MethodSignature) ∈ s.methods ignoredCallsName ∧
        toolRegistry.qualifiedName ⟨1⟩ = "java.language.Tool" ∧
        ¬ ∃ package ∈ ["java.lang.", "java.util."],
          package.toList <+: (toolRegistry.qualifiedName ⟨1⟩).toList := by
  refine ⟨build_toolCatalog, ?_, rfl, ?_⟩
  · decide +kernel
  · decide

end ConstructorSize

end RuleMetrics
