import RuleMetrics.Proofs.Registry.Ancestry
import RuleMetrics.Proofs.Registry.Grammar
import RuleMetrics.Registry.Signature

/-!
# Resolving references

A reference is resolved by looking up its type, then its arguments from left to right, and then by
walking upwards from the type to the first declaration of the method.  `resolution_settled` says
what each answer means: a signature is the nearest declaration, `methodNotFound` is answered when
there is none on the whole way up, and `unknownType` names the first name that has no meaning.

An argument may be rejected for its format before an unknown name behind it is seen, and no argument
is looked at if the type is unknown (`Registry.Outcome`).
-/

namespace RuleMetrics

namespace Registry

variable {r : Registry} {id owner found : TypeId} {reference : Reference}
  {parameters : List TypeUsage} {name text : String} {m : MethodSignature}

/-! ## Declarations on the way up -/

/-- No type below the one that declares the method, from `owner` on, declares it as well. -/
def NearestDeclaration (r : Registry) (owner : TypeId) (m : MethodSignature) : Prop :=
  ∃ below above, r.ancestors owner = below ++ m.declaringType :: above ∧
    r.HasMethod m.declaringType m.name m.parameters ∧
    ∀ id ∈ below, ¬ r.HasMethod id m.name m.parameters

lemma findMethod_eq_some_iff :
    r.findMethod owner name parameters = some found ↔
      r.NearestDeclaration owner ⟨found, name, parameters⟩ := by
  unfold findMethod NearestDeclaration
  rw [List.find?_eq_some_iff_append, declares_iff]
  constructor
  · rintro ⟨hfound, below, above, hway, hbelow⟩
    refine ⟨below, above, hway, hfound, ?_⟩
    intro id hid hmethod
    simpa [declares_iff.mpr hmethod] using hbelow id hid
  · rintro ⟨below, above, hway, hfound, hbelow⟩
    refine ⟨hfound, below, above, hway, ?_⟩
    intro id hid
    simpa [← declares_iff] using hbelow id hid

lemma findMethod_eq_none_iff :
    r.findMethod owner name parameters = none ↔
      ∀ id ∈ r.ancestors owner, ¬ r.HasMethod id name parameters := by
  unfold findMethod
  simp only [List.find?_eq_none, declares_iff]

/-! ## Look-ups -/

/-- The type and the arguments of a reference all have a meaning. -/
structure LooksUp (r : Registry) (reference : Reference) (owner : TypeId)
    (parameters : List TypeUsage) : Prop where
  owner : r.resolve reference.typeName = some owner
  arguments : List.Forall₂ (fun argument usage => r.resolveUsage argument = .ok usage)
    reference.arguments parameters

/-- A text is a name without a meaning, and at most 255 pairs of brackets. -/
structure UsageOfUnknown (r : Registry) (text name : String) : Prop where
  not_empty : name ≠ ""
  unknown : r.resolve name = none
  isBase : TypeUsage.IsBase name.toList
  bracketed : ∃ n ≤ TypeUsage.maxDimensions,
    TypeUsage.Bracketed name.toList n (Text.trimChars text.toList)

/-- The first name of a reference that has no meaning: its type, or the base of an argument whose
predecessors all have one. -/
inductive FirstUnknown (r : Registry) (reference : Reference) : String → Prop
  | owner (hunknown : r.resolve reference.typeName = none) :
      FirstUnknown r reference reference.typeName
  | argument {owner : TypeId} {before after : List String} {argument name : String}
      {parameters : List TypeUsage} (howner : r.resolve reference.typeName = some owner)
      (harguments : reference.arguments = before ++ argument :: after)
      (hbefore : List.Forall₂ (fun argument usage => r.resolveUsage argument = .ok usage)
        before parameters)
      (hunknown : r.UsageOfUnknown argument name) : FirstUnknown r reference name

lemma resolveUsage_eq_unknownType_iff :
    r.resolveUsage text = .error (.unknownType name) ↔ r.UsageOfUnknown text name := by
  unfold resolveUsage
  rw [TypeUsage.read_eq_unknownType_iff]
  exact ⟨fun ⟨hne, hunknown, hbase, hbracketed⟩ => ⟨hne, hunknown, hbase, hbracketed⟩,
    fun ⟨hne, hunknown, hbase, hbracketed⟩ => ⟨hne, hunknown, hbase, hbracketed⟩⟩

/-! ## Answers -/

/-- What it takes for each answer, the type being looked up before the arguments, these in order,
and the method last. -/
inductive Outcome (r : Registry) (reference : Reference) :
    Except ReadError MethodSignature → Prop
  | found {owner : TypeId} {m : MethodSignature} (hnames : r.LooksUp reference owner m.parameters)
      (hname : m.name = reference.methodName) (hnearest : r.NearestDeclaration owner m) :
      Outcome r reference (.ok m)
  | notFound {owner : TypeId} {parameters : List TypeUsage}
      (hnames : r.LooksUp reference owner parameters)
      (hnone : ∀ id ∈ r.ancestors owner, ¬ r.HasMethod id reference.methodName parameters) :
      Outcome r reference (.error (.methodNotFound (r.qualifiedName owner)
        (reference.methodName ++ "(" ++ Text.join "," reference.arguments ++ ")")))
  | unknownOwner (hunknown : r.resolve reference.typeName = none) :
      Outcome r reference (.error (.unknownType reference.typeName))
  | badArgument {owner : TypeId} {before after : List String} {argument : String}
      {parameters : List TypeUsage} {e : ReadError}
      (howner : r.resolve reference.typeName = some owner)
      (harguments : reference.arguments = before ++ argument :: after)
      (hbefore : List.Forall₂ (fun argument usage => r.resolveUsage argument = .ok usage) before
        parameters)
      (hargument : r.resolveUsage argument = .error e) : Outcome r reference (.error e)

lemma outcome_resolveReference (r : Registry) (reference : Reference) :
    r.Outcome reference (r.resolveReference reference) := by
  unfold resolveReference
  cases howner : r.resolve reference.typeName with
  | none => exact .unknownOwner howner
  | some owner =>
    cases harguments : reference.arguments.mapM r.resolveUsage with
    | error e =>
      obtain ⟨before, argument, after, parameters, hsplit, hbefore, hargument⟩ :=
        List.mapM_eq_error_iff.mp harguments
      exact .badArgument howner hsplit hbefore hargument
    | ok parameters =>
      have hnames : r.LooksUp reference owner parameters :=
        ⟨howner, List.mapM_eq_ok_iff.mp harguments⟩
      dsimp only [bind, Except.bind]
      cases hfind : r.findMethod owner reference.methodName parameters with
      | none => exact .notFound hnames (findMethod_eq_none_iff.mp hfind)
      | some declaringType => exact .found hnames rfl (findMethod_eq_some_iff.mp hfind)

/-- No reference has two outcomes. -/
lemma Outcome.resolveReference_eq {answer : Except ReadError MethodSignature}
    (h : r.Outcome reference answer) : r.resolveReference reference = answer := by
  unfold resolveReference
  cases h with
  | found hnames hname hnearest =>
    rw [hnames.owner, List.mapM_eq_ok_iff.mpr hnames.arguments, ← hname]
    dsimp only [bind, Except.bind]
    rw [findMethod_eq_some_iff.mpr hnearest]
  | notFound hnames hnone =>
    rw [hnames.owner, List.mapM_eq_ok_iff.mpr hnames.arguments]
    dsimp only [bind, Except.bind]
    rw [findMethod_eq_none_iff.mpr hnone]
  | unknownOwner hunknown => rw [hunknown]
  | badArgument howner harguments hbefore hargument =>
    rw [howner, List.mapM_eq_error_iff.mpr ⟨_, _, _, _, harguments, hbefore, hargument⟩]
    rfl

/-- A text is settled by its reference, unless it has none. -/
lemma readSignature_eq_iff {answer : Except ReadError MethodSignature}
    (hgrammar : ∀ e, answer = .error e → Reference.parse (Text.trim text) ≠ .error e) :
    r.readSignature text = answer ↔
      ∃ reference, Reference.parse (Text.trim text) = .ok reference ∧
        r.Outcome reference answer := by
  unfold readSignature
  cases hparse : Reference.parse (Text.trim text) with
  | error e =>
    constructor
    · intro h
      exact absurd hparse (hgrammar e h.symm)
    · rintro ⟨reference, ⟨⟩, -⟩
  | ok reference =>
    constructor
    · rintro rfl
      exact ⟨reference, rfl, outcome_resolveReference r reference⟩
    · rintro ⟨reference', ⟨⟩, h⟩
      exact h.resolveReference_eq

/-- A signature is read where the method is declared first. -/
lemma readSignature_eq_ok_iff :
    r.readSignature text = .ok m ↔
      ∃ reference owner, Reference.parse (Text.trim text) = .ok reference ∧
        r.LooksUp reference owner m.parameters ∧ m.name = reference.methodName ∧
        r.NearestDeclaration owner m := by
  rw [readSignature_eq_iff (by rintro e ⟨⟩)]
  constructor
  · rintro ⟨reference, hparse, houtcome⟩
    cases houtcome with
    | found hnames hname hnearest => exact ⟨reference, _, hparse, hnames, hname, hnearest⟩
  · rintro ⟨reference, owner, hparse, hnames, hname, hnearest⟩
    exact ⟨reference, hparse, .found hnames hname hnearest⟩

/-- A method is missed where no type on the way up declares it. -/
lemma readSignature_eq_methodNotFound_iff {type method : String} :
    r.readSignature text = .error (.methodNotFound type method) ↔
      ∃ reference owner parameters, Reference.parse (Text.trim text) = .ok reference ∧
        r.LooksUp reference owner parameters ∧
        (∀ id ∈ r.ancestors owner, ¬ r.HasMethod id reference.methodName parameters) ∧
        type = r.qualifiedName owner ∧
        method = reference.methodName ++ "(" ++ Text.join "," reference.arguments ++ ")" := by
  rw [readSignature_eq_iff]
  · constructor
    · rintro ⟨reference, hparse, houtcome⟩
      cases houtcome with
      | notFound hnames hnone =>
        exact ⟨reference, _, _, hparse, hnames, hnone, rfl, rfl⟩
      | badArgument _ _ _ hargument => exact absurd hargument TypeUsage.read_ne_methodNotFound
    · rintro ⟨reference, owner, parameters, hparse, hnames, hnone, rfl, rfl⟩
      exact ⟨reference, hparse, .notFound hnames hnone⟩
  · rintro e ⟨⟩ hparse
    exact Reference.explains_of_parse_eq hparse

/-- A name is reported as unknown where it is the first without a meaning. -/
lemma readSignature_eq_unknownType_iff :
    r.readSignature text = .error (.unknownType name) ↔
      ∃ reference, Reference.parse (Text.trim text) = .ok reference ∧
        r.FirstUnknown reference name := by
  rw [readSignature_eq_iff]
  · constructor
    · rintro ⟨reference, hparse, houtcome⟩
      cases houtcome with
      | unknownOwner hunknown => exact ⟨reference, hparse, .owner hunknown⟩
      | badArgument howner harguments hbefore hargument =>
        exact ⟨reference, hparse, .argument howner harguments hbefore
          (resolveUsage_eq_unknownType_iff.mp hargument)⟩
    · rintro ⟨reference, hparse, hfirst⟩
      refine ⟨reference, hparse, ?_⟩
      cases hfirst with
      | owner hunknown => exact .unknownOwner hunknown
      | argument howner harguments hbefore hunknown =>
        exact .badArgument howner harguments hbefore
          (resolveUsage_eq_unknownType_iff.mpr hunknown)
  · rintro e ⟨⟩ hparse
    exact Reference.explains_of_parse_eq hparse

end Registry

/-- **Resolution finds the nearest declaration.**  In a registry from any calls on a builder, the
walk upwards from a type visits its ancestors, each once, and ends.  A text is read as the method
that the first type on the way up from its type declares; that type is where the method is found
again.  If no type on the way declares it the answer is `methodNotFound`, and `unknownType` is
answered for the first name of the text that has no meaning. -/
theorem resolution_settled {calls : List Call} {r : Registry} (howns : Builder.empty.Owns calls)
    (hbuild : (Builder.empty.run calls).build = .ok r) :
    (∀ id : TypeId, (∀ k, r.climb^[k] (r.start? id) = (r.ancestors id)[k]?) ∧
      (∃ n, r.climb^[n] (r.start? id) = none) ∧ (r.ancestors id).Nodup) ∧
    ∀ text,
      (∀ m, r.readSignature text = .ok m ↔
        ∃ reference owner, Reference.parse (Text.trim text) = .ok reference ∧
          r.LooksUp reference owner m.parameters ∧ m.name = reference.methodName ∧
          r.NearestDeclaration owner m) ∧
      (∀ m, r.readSignature text = .ok m →
        r.findMethod m.declaringType m.name m.parameters = some m.declaringType) ∧
      (∀ type method, r.readSignature text = .error (.methodNotFound type method) ↔
        ∃ reference owner parameters, Reference.parse (Text.trim text) = .ok reference ∧
          r.LooksUp reference owner parameters ∧
          (∀ id ∈ r.ancestors owner, ¬ r.HasMethod id reference.methodName parameters) ∧
          type = r.qualifiedName owner ∧
          method = reference.methodName ++ "(" ++ Text.join "," reference.arguments ++ ")") ∧
      ∀ name, r.readSignature text = .error (.unknownType name) ↔
        ∃ reference, Reference.parse (Text.trim text) = .ok reference ∧
          r.FirstUnknown reference name := by
  have hr : r.Consistent := Builder.consistent_of_build (Builder.sound_empty.run howns) hbuild
  refine ⟨?_, ?_⟩
  · intro id
    exact ⟨Registry.iterate_climb_eq hr id, Registry.exists_iterate_climb_eq_none hr id,
      Registry.nodup_ancestors r id⟩
  · intro text
    refine ⟨fun _ => Registry.readSignature_eq_ok_iff, ?_,
      fun _ _ => Registry.readSignature_eq_methodNotFound_iff,
      fun _ => Registry.readSignature_eq_unknownType_iff⟩
    intro m hread
    obtain ⟨-, -, -, -, -, -, -, -, hmethod, -⟩ := Registry.readSignature_eq_ok_iff.mp hread
    exact Registry.findMethod_of_declares (Registry.declares_iff.mpr hmethod)

/-- Two types with a method of the same name.  That of the child has a parameter. -/
def overloadCalls : List Call :=
  [ .declare "Object" none,
    .addMethod ⟨0⟩ ⟨"hash", []⟩,
    .declare "Text" (some "Object"),
    .addMethod ⟨1⟩ ⟨"hash", [⟨⟨0⟩, 1⟩]⟩ ]

/-- What `overloadCalls` leave. -/
def overloadRegistry : Registry where
  types := [⟨"Object", none, [⟨"hash", []⟩]⟩, ⟨"Text", some ⟨0⟩, [⟨"hash", [⟨⟨0⟩, 1⟩]⟩]⟩]
  aliases := []
  shortNames := [none, none]

/-- The method without parameters is inherited, and `clone` is not found. -/
theorem resolution_settled_of_overloadCalls :
    Builder.empty.Owns overloadCalls ∧
      (Builder.empty.run overloadCalls).build = .ok overloadRegistry ∧
      overloadRegistry.readSignature "Text # hash()" = .ok ⟨⟨0⟩, "hash", []⟩ ∧
      overloadRegistry.readSignature "Text#clone" =
        .error (.methodNotFound "Text" "clone()") ∧
      overloadRegistry.readSignature "Txt#hash(Object, Other)" = .error (.unknownType "Txt") := by
  have howns : Builder.empty.Owns overloadCalls := by
    decide
  have hbuild : (Builder.empty.run overloadCalls).build = .ok overloadRegistry :=
    Builder.build_of_ascending (by decide) (by decide)
  have hway : overloadRegistry.ancestors ⟨1⟩ = [⟨1⟩, ⟨0⟩] := by
    simp [Registry.ancestors, Registry.declaration?, overloadRegistry]
  have hbelow : ¬ overloadRegistry.HasMethod ⟨1⟩ "hash" [] := by
    rw [← Registry.declares_iff]
    decide
  obtain ⟨-, hread⟩ := resolution_settled howns hbuild
  refine ⟨howns, hbuild, ?_, ?_, ?_⟩
  · rw [(hread "Text # hash()").1]
    refine ⟨⟨"Text", "hash", []⟩, ⟨1⟩, by rfl, ⟨by rfl, List.Forall₂.nil⟩, rfl, ?_⟩
    refine ⟨[⟨1⟩], [], hway, ⟨_, rfl, List.mem_cons_self⟩, ?_⟩
    intro id hid
    rwa [List.mem_singleton.mp hid]
  · rw [(hread "Text#clone").2.2.1]
    refine ⟨⟨"Text", "clone", []⟩, ⟨1⟩, [], by rfl, ⟨by rfl, List.Forall₂.nil⟩, ?_, rfl, rfl⟩
    simp only [hway, ← Registry.declares_iff]
    decide
  · rw [(hread "Txt#hash(Object, Other)").2.2.2]
    exact ⟨⟨"Txt", "hash", ["Object", "Other"]⟩, by rfl, .owner (by rfl)⟩

end RuleMetrics
