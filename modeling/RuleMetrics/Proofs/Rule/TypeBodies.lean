import Mathlib.Data.List.Forall2
import RuleMetrics.Proofs.Syntax.Place

/-!
# What type bodies hide

The statements of a constructor are counted without a look into the bodies of the types that are
declared in it.  So trees that differ only in what type bodies have below them (`SameOutside`) have
equally many statements (`statements_sameOutside`), and a constructor keeps its score when a type
body in it is replaced (`sameOutside_replaceAt`, `constructorScore_sameOutside`).

There is one way in which a type body could be looked into: if it were the argument list of a call,
its children would be counted to match the call, and if it were the name, its text would be read.
The grammar puts type bodies into the field `body` or into no field, and `ReplacesBody` has what of
this is needed.
-/

namespace RuleMetrics.ConstructorSize

open SyntaxTree

/-! ## Trees that agree outside type bodies -/

/-- The fields of a method call that it is matched by. -/
def matchedFields : List String := ["name", "arguments"]

/-- A node can stand for a type body if it has its kind and is in its field.  The field is none that
a call is matched by. -/
structure ReplacesBody (old new : SyntaxTree) : Prop where
  isTypeBody : isTypeBody old = true
  not_matched : ∀ field ∈ old.label.field, field ∉ matchedFields
  kind_eq : new.kind = old.kind
  field_eq : new.label.field = old.label.field
  named_eq : new.label.named = old.label.named

/-- Two trees that differ in type bodies only. -/
inductive SameOutside : SyntaxTree → SyntaxTree → Prop
  | body {old new : SyntaxTree} (h : ReplacesBody old new) : SameOutside old new
  | node (label : NodeLabel) {children children' : List SyntaxTree}
      (h : List.Forall₂ SameOutside children children') :
      SameOutside (.node label children) (.node label children')

mutual

lemma SameOutside.refl : (t : SyntaxTree) → SameOutside t t
  | .node label children => .node label (forall₂_sameOutside_refl children)

lemma forall₂_sameOutside_refl :
    (trees : List SyntaxTree) → List.Forall₂ SameOutside trees trees
  | [] => .nil
  | t :: rest => .cons (SameOutside.refl t) (forall₂_sameOutside_refl rest)

end

section SameOutside

variable {t t' : SyntaxTree}

namespace SameOutside

lemma kind_eq (h : SameOutside t t') : t'.kind = t.kind := by
  cases h with
  | body h => exact h.kind_eq
  | node label _ => rfl

lemma field_eq (h : SameOutside t t') : t'.label.field = t.label.field := by
  cases h with
  | body h => exact h.field_eq
  | node label _ => rfl

lemma named_eq (h : SameOutside t t') : t'.label.named = t.label.named := by
  cases h with
  | body h => exact h.named_eq
  | node label _ => rfl

/-- Two nodes that are no type bodies differ below their children at most. -/
lemma of_not_isTypeBody (h : SameOutside t t') (ht : isTypeBody t = false) :
    t'.label = t.label ∧ List.Forall₂ SameOutside t.children t'.children := by
  cases h with
  | body h =>
    rw [h.isTypeBody] at ht
    cases ht
  | node label h => exact ⟨rfl, h⟩

/-- A part that a call is matched by is no type body. -/
lemma of_matched {field : String} (h : SameOutside t t') (hfield : t.label.field = some field)
    (hmatched : field ∈ matchedFields) :
    t'.label = t.label ∧ List.Forall₂ SameOutside t.children t'.children := by
  cases h with
  | body h => exact absurd hmatched (h.not_matched field hfield)
  | node label h => exact ⟨rfl, h⟩

end SameOutside

/-! ## What is looked up in such trees -/

lemma forall₂_find?_field {trees trees' : List SyntaxTree}
    (h : List.Forall₂ SameOutside trees trees') (field : String) :
    Option.Rel SameOutside (trees.find? fun c => c.label.field == some field)
      (trees'.find? fun c => c.label.field == some field) := by
  induction h with
  | nil => exact .none
  | @cons t t' _ _ h _ ih =>
    rw [List.find?_cons, List.find?_cons, h.field_eq]
    cases t.label.field == some field with
    | true => exact .some h
    | false => exact ih

lemma SameOutside.childInField (h : SameOutside t t') (ht : isTypeBody t = false)
    (field : String) : Option.Rel SameOutside (t.childInField field) (t'.childInField field) :=
  forall₂_find?_field (h.of_not_isTypeBody ht).2 field

lemma forall₂_filter_named {trees trees' : List SyntaxTree}
    (h : List.Forall₂ SameOutside trees trees') :
    List.Forall₂ SameOutside (trees.filter fun c => c.label.named)
      (trees'.filter fun c => c.label.named) := by
  refine List.rel_filter ?_ h
  intro t t' h
  exact iff_of_eq (congrArg (· = true) h.named_eq.symm)

lemma callShape_sameOutside (h : SameOutside t t') (ht : isTypeBody t = false) :
    callShape t' = callShape t := by
  have hfield (field : String) : ∀ c ∈ t.childInField field, c.label.field = some field := by
    intro c hc
    simpa using List.find?_some hc
  have hname := hfield "name"
  have harguments := hfield "arguments"
  have hnames := h.childInField ht "name"
  have hlists := h.childInField ht "arguments"
  unfold callShape
  -- Only how the parts found in the two trees are related matters.
  generalize t.childInField "name" = name at hname hnames
  generalize t'.childInField "name" = name' at hnames
  generalize t.childInField "arguments" = list at harguments hlists
  generalize t'.childInField "arguments" = list' at hlists
  congr 1
  · cases hnames with
    | none => rfl
    | @some name name' hsame =>
      have hlabel : name'.label = name.label := (hsame.of_matched (hname name rfl) (by decide)).1
      rw [Option.elim_some, Option.elim_some, textOr, textOr, hlabel]
  · cases hlists with
    | none => rfl
    | @some list list' hsame =>
      have hbelow : List.Forall₂ SameOutside list.children list'.children :=
        (hsame.of_matched (harguments list rfl) (by decide)).2
      exact (forall₂_filter_named hbelow).length_eq.symm

/-! ## Scores -/

variable {ignored : List MethodSignature}

lemma isIgnoredCall_sameOutside (h : SameOutside t t') (ht : isTypeBody t = false) :
    isIgnoredCall ignored t' = isIgnoredCall ignored t := by
  have hnamed : List.Forall₂ SameOutside t.namedChildren t'.namedChildren :=
    forall₂_filter_named (h.of_not_isTypeBody ht).2
  unfold isIgnoredCall
  rw [h.kind_eq]
  generalize t.namedChildren = named at hnamed
  generalize t'.namedChildren = named' at hnamed
  cases hnamed with
  | nil => rfl
  | @cons call call' _ _ hcall _ =>
    dsimp only
    rw [hcall.kind_eq]
    by_cases hkind : call.kind = "method_invocation"
    · have hbody : isTypeBody call = false := by
        rw [isTypeBody, hkind]
        decide
      rw [callShape_sameOutside hcall hbody]
    · rw [beq_false_of_ne hkind, Bool.false_and, Bool.false_and]

lemma weight_sameOutside (ignored : List MethodSignature) (h : SameOutside t t')
    (ht : isTypeBody t = false) : weight ignored t' = weight ignored t := by
  have halternative : (t'.childInField "alternative").isSome =
      (t.childInField "alternative").isSome := by
    have hfound := h.childInField ht "alternative"
    generalize t.childInField "alternative" = found at hfound
    generalize t'.childInField "alternative" = found' at hfound
    cases hfound with
    | none => rfl
    | some _ => rfl
  unfold weight
  rw [isIgnoredCall_sameOutside h ht, h.kind_eq, halternative]

mutual

lemma statements_sameOutside (ignored : List MethodSignature) :
    (t : SyntaxTree) → ∀ t', SameOutside t t' → statements ignored t' = statements ignored t
  | .node label children, t', h => by
    have hkind : isTypeBody t' = isTypeBody (.node label children) := by
      rw [isTypeBody, isTypeBody, h.kind_eq]
    cases hbody : isTypeBody (.node label children) with
    | true =>
      rw [statements_of_isTypeBody ignored hbody,
        statements_of_isTypeBody ignored (hkind.trans hbody)]
    | false =>
      obtain ⟨-, hbelow⟩ := h.of_not_isTypeBody hbody
      have hweight := weight_sameOutside ignored h hbody
      have hsum := statementsBelow_sameOutside ignored children t'.children hbelow
      cases t' with
      | node label' children' =>
        rw [statements, statements, hkind, hbody, if_neg Bool.false_ne_true,
          if_neg Bool.false_ne_true, hweight]
        exact congrArg _ hsum

lemma statementsBelow_sameOutside (ignored : List MethodSignature) :
    (trees : List SyntaxTree) → ∀ trees', List.Forall₂ SameOutside trees trees' →
      statementsBelow ignored trees' = statementsBelow ignored trees
  | [], _, .nil => rfl
  | t :: rest, _, @List.Forall₂.cons _ _ _ _ t' _ _ h hrest => by
    rw [statementsBelow, statementsBelow, h.named_eq, statements_sameOutside ignored t t' h,
      statementsBelow_sameOutside ignored rest _ hrest]

end

/-- The score of a constructor does not depend on what is in the type bodies below it. -/
lemma constructorScore_sameOutside (h : SameOutside t t') (ht : isTypeBody t = false) :
    constructorScore ignored t' = constructorScore ignored t := by
  have hbody := h.childInField ht "body"
  rw [constructorScore_eq, constructorScore_eq]
  generalize t.childInField "body" = body at hbody
  generalize t'.childInField "body" = body' at hbody
  cases hbody with
  | none => rfl
  | @some body body' hsame =>
    rw [Option.elim_some, Option.elim_some, statements_sameOutside ignored body body' hsame]

end SameOutside

/-! ## Replacing a type body -/

lemma forall₂_modify {trees : List SyntaxTree} {i : Nat} {f : SyntaxTree → SyntaxTree}
    (h : ∀ t ∈ trees[i]?, SameOutside t (f t)) :
    List.Forall₂ SameOutside trees (trees.modify i f) := by
  induction trees generalizing i with
  | nil =>
    rw [List.modify_nil]
    exact .nil
  | cons t rest ih =>
    cases i with
    | zero => exact .cons (h t rfl) (forall₂_sameOutside_refl rest)
    | succ i => exact .cons (.refl t) (ih h)

/-- A tree with a type body replaced is the same outside. -/
lemma sameOutside_replaceAt {p : Place} {t old new : SyntaxTree} (hold : nodeAt? p t = some old)
    (h : ReplacesBody old new) : SameOutside t (replaceAt new p t) := by
  induction p generalizing t with
  | nil =>
    obtain rfl : t = old := Option.some.inj hold
    exact .body h
  | cons i p ih =>
    obtain ⟨c, hc, hnode⟩ := Option.bind_eq_some_iff.mp hold
    cases t with
    | node label children =>
      refine .node label (forall₂_modify fun d hd => ?_)
      obtain rfl : c = d := Option.some.inj (hc.symm.trans hd)
      exact ih hnode

end RuleMetrics.ConstructorSize
