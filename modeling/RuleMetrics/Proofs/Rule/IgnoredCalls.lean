import Mathlib.Data.Finset.Card
import RuleMetrics.Proofs.Rule.CountingLoop
import RuleMetrics.Proofs.Rule.Ownership

/-!
# The effect of ignored calls

A call is ignored for its name and its number of arguments.  So of a list of methods only the set of
these pairs matters (`callShapes`), and a statement that only calls one of them counts nothing.

What ignoring changes is found by places: a constructor has a set of places at which such statements
stand (`ignoredPlaces`), in its body and outside the bodies of other types.  With ignored calls the
score is lower by as many as these (`constructorScore_add_card`), and the set grows with the set of
pairs, so that ignoring more never makes a score higher (`ignored_calls_settled`).
-/

namespace RuleMetrics.ConstructorSize

open SyntaxTree

/-! ## Calls by shape -/

/-- The pairs of a name and a number of parameters in a list of methods. -/
def callShapes (methods : List MethodSignature) : Finset (String × ℕ) :=
  (methods.map signatureShape).toFinset

/-- An expression statement whose first named child is a call with one of some pairs of a name and
a number of arguments. -/
def CallsShape (shapes : Finset (String × ℕ)) (t : SyntaxTree) : Prop :=
  t.kind = "expression_statement" ∧ ∃ call ∈ t.namedChildren.head?,
    call.kind = "method_invocation" ∧ callShape call ∈ shapes

/-- A place in a body that no type body hides.  On the way there, the body and the node at the place
included, is no type body.  The way leads through named nodes only, since the other ones have
nothing below them in the grammar. -/
def Outside (body : SyntaxTree) (p : Place) : Prop :=
  ∀ r, r <+: p → ∀ t ∈ nodeAt? r body, isTypeBody t = false ∧ (r ≠ [] → t.label.named = true)

/-- At a place in the body of a constructor, outside type bodies, stands a statement that only calls
a method with one of some shapes. -/
def IgnoredAt (shapes : Finset (String × ℕ)) (constructor : SyntaxTree) (p : Place) : Prop :=
  ∃ body ∈ constructor.childInField "body", ∃ t ∈ nodeAt? p body,
    CallsShape shapes t ∧ Outside body p

section Places

variable {ignored ignored' : List MethodSignature} {constructor body t : SyntaxTree} {p : Place}

lemma isIgnoredCall_iff_callsShape :
    isIgnoredCall ignored t = true ↔ CallsShape (callShapes ignored) t := by
  rw [isIgnoredCall_iff]
  unfold CallsOneOf CallsShape callShapes
  simp only [List.mem_toFinset, List.mem_map]

lemma CallsShape.mono {shapes shapes' : Finset (String × ℕ)} (h : CallsShape shapes t)
    (hsubset : shapes ⊆ shapes') : CallsShape shapes' t := by
  obtain ⟨hkind, call, hcall, hinvocation, hshape⟩ := h
  exact ⟨hkind, call, hcall, hinvocation, hsubset hshape⟩

/-! ## Places of ignored calls -/

/-- The nodes that are visited in a body are those outside type bodies. -/
lemma mem_visitedAt_iff_outside :
    (p, t) ∈ visitedAt body ↔ nodeAt? p body = some t ∧ Outside body p := by
  rw [mem_visitedAt_iff]
  constructor
  · rintro ⟨hbody, hwalk⟩
    refine ⟨nodeAt?_of_mem_walk hwalk, fun r hr u hu => ⟨?_, fun hroot => ?_⟩⟩
    · exact isTypeBody_of_mem_visitedAt (mem_visitedAt_iff.mpr ⟨hbody, hwalk⟩) hr hu
    · have hvisited : isVisited u = true := enters_of_mem_walk hwalk hr hroot hu
      exact (Bool.and_eq_true_iff.mp hvisited).1
  · rintro ⟨ht, houtside⟩
    refine ⟨(houtside [] List.nil_prefix body rfl).1, mem_walk_of_enters ht ?_⟩
    intro r hr hroot u hu
    obtain ⟨hbody, hnamed⟩ := houtside r hr u hu
    rw [isVisited, hbody, hnamed hroot]
    rfl

/-- The places of ignored calls in the body of a constructor. -/
def ignoredPlaces (ignored : List MethodSignature) (constructor : SyntaxTree) : Finset Place :=
  (constructor.childInField "body").elim ∅ fun body =>
    (((visitedAt body).filter fun e => isIgnoredCall ignored e.2).map Prod.fst).toFinset

lemma mem_ignoredPlaces_iff :
    p ∈ ignoredPlaces ignored constructor ↔ IgnoredAt (callShapes ignored) constructor p := by
  unfold ignoredPlaces IgnoredAt
  cases constructor.childInField "body" with
  | none => simp
  | some body =>
    rw [Option.elim_some, List.mem_toFinset, List.mem_map]
    constructor
    · rintro ⟨⟨p, t⟩, hmem, rfl⟩
      rw [List.mem_filter, mem_visitedAt_iff_outside, isIgnoredCall_iff_callsShape] at hmem
      exact ⟨body, rfl, t, hmem.1.1, hmem.2, hmem.1.2⟩
    · rintro ⟨body', hbody, t, ht, hcall, houtside⟩
      obtain rfl := Option.some.inj hbody
      refine ⟨(p, t), List.mem_filter.mpr ⟨?_, ?_⟩, rfl⟩
      · exact mem_visitedAt_iff_outside.mpr ⟨ht, houtside⟩
      · exact isIgnoredCall_iff_callsShape.mpr hcall

lemma ignoredCalls_eq_countP (ignored : List MethodSignature) (t : SyntaxTree) :
    ignoredCalls ignored t = (visited t).countP (isIgnoredCall ignored) := by
  unfold ignoredCalls
  induction visited t with
  | nil => rfl
  | cons s rest ih =>
    rw [List.map_cons, List.sum_cons, ih, List.countP_cons, Nat.add_comm]
    cases isIgnoredCall ignored s with
    | true => rfl
    | false => rfl

lemma card_ignoredPlaces (ignored : List MethodSignature) (constructor : SyntaxTree) :
    (ignoredPlaces ignored constructor).card = ignoredCallsIn ignored constructor := by
  unfold ignoredPlaces ignoredCallsIn
  cases constructor.childInField "body" with
  | none => rfl
  | some body =>
    have hnodup : (((visitedAt body).filter fun e => isIgnoredCall ignored e.2).map
        Prod.fst).Nodup :=
      (List.filter_sublist.map Prod.fst).nodup (nodup_visitedAt body)
    rw [Option.elim_some, Option.elim_some, List.toFinset_card_of_nodup hnodup, List.length_map,
      ignoredCalls_eq_countP, ← visitedAt_map_snd, List.countP_map, List.countP_eq_length_filter]
    rfl

/-! ## Scores -/

/-- Without ignored methods the score is higher by the number of ignored calls. -/
lemma constructorScore_add_card (ignored : List MethodSignature) (constructor : SyntaxTree) :
    constructorScore [] constructor =
      constructorScore ignored constructor + (ignoredPlaces ignored constructor).card := by
  rw [card_ignoredPlaces, constructorScore_eq, constructorScore_eq, ignoredCallsIn]
  cases constructor.childInField "body" with
  | none => rfl
  | some body =>
    rw [Option.elim_some, Option.elim_some, Option.elim_some, statements_add ignored body,
      Nat.add_assoc]

lemma constructorScore_le (constructor : SyntaxTree)
    (h : callShapes ignored ⊆ callShapes ignored') :
    constructorScore ignored' constructor ≤ constructorScore ignored constructor := by
  have hplaces : ignoredPlaces ignored constructor ⊆ ignoredPlaces ignored' constructor := by
    intro p hp
    rw [mem_ignoredPlaces_iff] at hp ⊢
    obtain ⟨body, hbody, t, ht, hcall, houtside⟩ := hp
    exact ⟨body, hbody, t, ht, hcall.mono h, houtside⟩
  have hcard := Finset.card_le_card hplaces
  have hscore := constructorScore_add_card ignored constructor
  have hscore' := constructorScore_add_card ignored' constructor
  omega

end Places

/-- **The effect of ignored calls.**  The score of a constructor depends on the ignored methods
through their pairs of a name and a number of parameters, and with more pairs it is no higher.
Without ignored methods it is higher by the number of statements in the body, outside the bodies of
other types, that only call a method with one of the pairs. -/
theorem ignored_calls_settled (constructor : SyntaxTree) :
    (∀ ignored ignored', callShapes ignored = callShapes ignored' →
      constructorScore ignored constructor = constructorScore ignored' constructor) ∧
    (∀ ignored ignored', callShapes ignored ⊆ callShapes ignored' →
      constructorScore ignored' constructor ≤ constructorScore ignored constructor) ∧
    ∀ ignored, ∃ places : Finset Place,
      (∀ p, p ∈ places ↔ IgnoredAt (callShapes ignored) constructor p) ∧
      constructorScore [] constructor = constructorScore ignored constructor + places.card := by
  refine ⟨?_, fun _ _ h => constructorScore_le constructor h, fun ignored => ?_⟩
  · intro ignored ignored' h
    exact le_antisymm (constructorScore_le constructor h.superset)
      (constructorScore_le constructor h.subset)
  · exact ⟨ignoredPlaces ignored constructor, fun _ => mem_ignoredPlaces_iff,
      constructorScore_add_card ignored constructor⟩

/-! ## A sample -/

/-- A statement that only calls `requireNonNull` with one argument. -/
def requiringStatement (argument : SyntaxTree) : SyntaxTree :=
  sampleNode "expression_statement" none "" 0 [
    sampleNode "method_invocation" none "" 0 [
      sampleNode "identifier" (some "name") "requireNonNull" 0 [],
      sampleNode "argument_list" (some "arguments") "" 0 [argument]]]

/-- A constructor with a call of `requireNonNull`, another one inside its argument, and a third in
a local class. -/
def nestedCalls : SyntaxTree :=
  sampleNode "constructor_declaration" none "" 0 [
    sampleNode "constructor_body" (some "body") "" 0 [
      requiringStatement (sampleNode "lambda_expression" none "" 0 [
        requiringStatement (sampleNode "identifier" none "x" 0 [])]),
      sampleNode "class_body" none "" 0 [
        requiringStatement (sampleNode "identifier" none "x" 0 [])]]]

/-- Another method of one argument and the same name. -/
def requireOther : MethodSignature :=
  ⟨⟨1⟩, "requireNonNull", [⟨⟨2⟩, 1⟩]⟩

theorem ignored_calls_settled_of_nestedCalls :
    callShapes [requireNonNull] = callShapes [requireOther, requireNonNull, requireOther] ∧
      constructorScore [requireOther, requireNonNull, requireOther] nestedCalls = 1 ∧
      callShapes [] ⊆ callShapes [requireNonNull] ∧
      constructorScore [requireNonNull] nestedCalls ≤ constructorScore [] nestedCalls ∧
      constructorScore [] nestedCalls = 3 := by
  obtain ⟨hsame, hfewer, -⟩ := ignored_calls_settled nestedCalls
  have hshapes :
      callShapes [requireNonNull] = callShapes [requireOther, requireNonNull, requireOther] := by
    decide
  have hscore : constructorScore [requireNonNull] nestedCalls = 1 := by
    rw [constructorScore_eq]
    decide
  have hall : constructorScore [] nestedCalls = 3 := by
    rw [constructorScore_eq]
    decide
  have hempty : callShapes [] ⊆ callShapes [requireNonNull] := Finset.empty_subset _
  exact ⟨hshapes, (hsame _ _ hshapes).symm.trans hscore, hempty, hfewer _ _ hempty, hall⟩

end RuleMetrics.ConstructorSize
