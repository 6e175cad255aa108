import RuleMetrics.Proofs.Rule.Statements

/-!
# Comments in constructors

A comment is a named node of the tree, although it is no statement.  Comments that are put into a
constructor (`Commented`) show up among the nodes that are visited, and nothing else changes there
(`commentedAll_visited`).  So the number of statements stays the same if calls to ignored methods
are counted too (`statementCount_commented`).

Which calls are ignored can change, because the first named child of a statement and the number of
named children of an argument list are looked at, and a comment can be among both.  So the score
stays the same exactly if as many calls are ignored as before, and in particular if no comment
stands in such a place (`score_of_commented`).  `score_changed_by_comment` has a comment among
arguments that does change the score.
-/

namespace RuleMetrics

namespace SyntaxTree

/-! ## Trees with more comments -/

/-- Whether a node is a comment: a leaf that fills no field. -/
def isComment : SyntaxTree → Bool
  | node label children =>
    (label.kind == "line_comment" || label.kind == "block_comment") && label.named &&
      label.field.isNone && children.isEmpty

/-- Trees, and related ones with more comments between them. -/
inductive CommentedAll (R : SyntaxTree → SyntaxTree → Prop) :
    List SyntaxTree → List SyntaxTree → Prop
  | nil : CommentedAll R [] []
  | kept {t t' : SyntaxTree} {trees trees' : List SyntaxTree} (h : R t t')
      (hrest : CommentedAll R trees trees') : CommentedAll R (t :: trees) (t' :: trees')
  | comment {c : SyntaxTree} {trees trees' : List SyntaxTree} (hc : c.isComment = true)
      (hrest : CommentedAll R trees trees') : CommentedAll R trees (c :: trees')

/-- A tree, and the same with more comments between the children of its nodes. -/
inductive Commented : SyntaxTree → SyntaxTree → Prop
  | node (label : NodeLabel) {children children' : List SyntaxTree}
      (h : CommentedAll Commented children children') :
      Commented (node label children) (node label children')

mutual

lemma Commented.refl : (t : SyntaxTree) → Commented t t
  | .node label children => .node label (commentedAll_refl children)

lemma commentedAll_refl : (trees : List SyntaxTree) → CommentedAll Commented trees trees
  | [] => .nil
  | t :: rest => .kept (Commented.refl t) (commentedAll_refl rest)

end

lemma isComment_iff {c : SyntaxTree} :
    c.isComment = true ↔ (c.kind = "line_comment" ∨ c.kind = "block_comment") ∧
      c.label.named = true ∧ c.label.field = none ∧ c.children = [] := by
  cases c with
  | node label children =>
    simp [isComment, SyntaxTree.kind, SyntaxTree.label, SyntaxTree.children, and_assoc]

/-- The kind of a comment is none of those that a list without comments has. -/
lemma kind_not_mem_of_isComment {c : SyntaxTree} (hc : c.isComment = true) {kinds : List String}
    (hline : "line_comment" ∉ kinds) (hblock : "block_comment" ∉ kinds) : c.kind ∉ kinds := by
  rcases (isComment_iff.mp hc).1 with hkind | hkind
  · rwa [hkind]
  · rwa [hkind]

section Commented

variable {t t' : SyntaxTree}

lemma Commented.label_eq (h : Commented t t') : t'.label = t.label := by
  cases h
  rfl

lemma Commented.kind_eq (h : Commented t t') : t'.kind = t.kind :=
  congrArg NodeLabel.kind h.label_eq

lemma Commented.children (h : Commented t t') : CommentedAll Commented t.children t'.children := by
  cases h
  assumption

end Commented

namespace CommentedAll

variable {R : SyntaxTree → SyntaxTree → Prop} {trees trees' : List SyntaxTree}

lemma append {others others' : List SyntaxTree} (h : CommentedAll R trees trees')
    (hothers : CommentedAll R others others') :
    CommentedAll R (trees ++ others) (trees' ++ others') := by
  induction h with
  | nil => exact hothers
  | kept h _ ih => exact ih.kept h
  | comment hc _ ih => exact ih.comment hc

/-- A comment fills no field, so a field is filled by corresponding trees. -/
lemma find?_field (h : CommentedAll Commented trees trees') (field : String) :
    trees.find? (fun c => c.label.field == some field) = none ∧
        trees'.find? (fun c => c.label.field == some field) = none ∨
      ∃ t t', trees.find? (fun c => c.label.field == some field) = some t ∧
        trees'.find? (fun c => c.label.field == some field) = some t' ∧ Commented t t' := by
  induction h with
  | nil => exact Or.inl ⟨rfl, rfl⟩
  | @kept t t' _ _ h _ ih =>
    rw [List.find?_cons, List.find?_cons, h.label_eq]
    cases t.label.field == some field with
    | true => exact Or.inr ⟨t, t', rfl, rfl, h⟩
    | false => exact ih
  | comment hc _ ih =>
    rw [List.find?_cons, (isComment_iff.mp hc).2.2.1]
    exact ih

/-- The named ones among the trees; comments are named. -/
lemma filter_named (h : CommentedAll Commented trees trees') :
    CommentedAll Commented (trees.filter fun c => c.label.named)
      (trees'.filter fun c => c.label.named) := by
  induction h with
  | nil => exact .nil
  | @kept t t' _ _ h _ ih =>
    rw [List.filter_cons, List.filter_cons, h.label_eq]
    cases t.label.named with
    | true => exact ih.kept h
    | false => exact ih
  | comment hc _ ih =>
    rw [List.filter_cons, if_pos (isComment_iff.mp hc).2.1]
    exact ih.comment hc

/-- What comments add nothing to is the same in sum. -/
lemma sum_map_eq (h : CommentedAll R trees trees') {f : SyntaxTree → Nat}
    (hcomment : ∀ c, c.isComment = true → f c = 0)
    (hsame : ∀ t, ∀ t' ∈ trees', R t t' → f t' = f t) :
    (trees'.map f).sum = (trees.map f).sum := by
  induction h with
  | nil => rfl
  | kept h _ ih =>
    rw [List.map_cons, List.sum_cons, List.map_cons, List.sum_cons,
      hsame _ _ List.mem_cons_self h, ih fun t t' ht' => hsame t t' (List.mem_cons_of_mem _ ht')]
  | comment hc _ ih =>
    rw [List.map_cons, List.sum_cons, hcomment _ hc, Nat.zero_add,
      ih fun t t' ht' => hsame t t' (List.mem_cons_of_mem _ ht')]

lemma length_eq (h : CommentedAll R trees trees')
    (hclear : ∀ t ∈ trees', t.isComment = false) : trees'.length = trees.length := by
  induction h with
  | nil => rfl
  | kept _ _ ih =>
    rw [List.length_cons, List.length_cons, ih fun t ht => hclear t (List.mem_cons_of_mem _ ht)]
  | comment hc _ _ =>
    rw [hclear _ List.mem_cons_self] at hc
    cases hc

end CommentedAll

lemma Commented.childInField {t t' : SyntaxTree} (h : Commented t t') (field : String) :
    t.childInField field = none ∧ t'.childInField field = none ∨
      ∃ c c', t.childInField field = some c ∧ t'.childInField field = some c' ∧
        Commented c c' :=
  h.children.find?_field field

lemma Commented.namedChildren {t t' : SyntaxTree} (h : Commented t t') :
    CommentedAll Commented t.namedChildren t'.namedChildren :=
  h.children.filter_named

end SyntaxTree

namespace ConstructorSize

open SyntaxTree

/-! ## Visited nodes -/

mutual

/-- The nodes of a tree that are visited to count its statements: none of the body of a type, else
the root and those of its named children. -/
def visited : SyntaxTree → List SyntaxTree
  | .node label children =>
    if isTypeBody (.node label children) then []
    else .node label children :: visitedBelow children

/-- The visited nodes of the named ones among some trees. -/
def visitedBelow : List SyntaxTree → List SyntaxTree
  | [] => []
  | t :: rest => (if t.label.named then visited t else []) ++ visitedBelow rest

end

mutual

lemma statements_eq_sum (ignored : List MethodSignature) :
    (t : SyntaxTree) → statements ignored t = ((visited t).map (weight ignored)).sum
  | .node label children => by
    rw [statements, visited, statementsBelow_eq_sum_visited ignored children]
    split
    · rfl
    · rw [List.map_cons, List.sum_cons]

lemma statementsBelow_eq_sum_visited (ignored : List MethodSignature) :
    (trees : List SyntaxTree) →
      statementsBelow ignored trees = ((visitedBelow trees).map (weight ignored)).sum
  | [] => rfl
  | t :: rest => by
    rw [statementsBelow, visitedBelow, List.map_append, List.sum_append,
      statementsBelow_eq_sum_visited ignored rest]
    split
    · rw [statements_eq_sum ignored t]
    · rfl

end

/-- A comment is visited, and nothing else because of it. -/
lemma visited_of_isComment {c : SyntaxTree} (hc : c.isComment = true) : visited c = [c] := by
  have hkind : c.kind ∉ typeBodyKinds := kind_not_mem_of_isComment hc (by decide) (by decide)
  have hbody : isTypeBody c = false := by
    simpa [isTypeBody] using hkind
  cases c with
  | node label children =>
    obtain rfl : children = [] := (isComment_iff.mp hc).2.2.2
    rw [visited, if_neg (by simp [hbody]), visitedBelow]

mutual

/-- Comments that are put into a tree are visited, and nothing else changes. -/
lemma commentedAll_visited :
    (t' : SyntaxTree) → ∀ t, Commented t t' → CommentedAll Commented (visited t) (visited t')
  | .node label children', _, @Commented.node _ children _ h => by
    have hbelow := commentedAll_visitedBelow children' children h
    have hbody : isTypeBody (.node label children') = isTypeBody (.node label children) := rfl
    rw [visited, visited, hbody]
    cases isTypeBody (.node label children) with
    | true => exact .nil
    | false => exact hbelow.kept (.node label h)

lemma commentedAll_visitedBelow :
    (trees' : List SyntaxTree) → ∀ trees, CommentedAll Commented trees trees' →
      CommentedAll Commented (visitedBelow trees) (visitedBelow trees')
  | [], _, .nil => .nil
  | t' :: rest', _, @CommentedAll.kept _ t _ rest _ h hrest => by
    have hbelow := commentedAll_visitedBelow rest' rest hrest
    have hroot := commentedAll_visited t' t h
    rw [visitedBelow, visitedBelow, h.label_eq]
    cases t.label.named with
    | true => exact hroot.append hbelow
    | false => exact hbelow
  | c :: rest', trees, .comment hc hrest => by
    have hbelow := commentedAll_visitedBelow rest' trees hrest
    rw [visitedBelow, if_pos (isComment_iff.mp hc).2.1, visited_of_isComment hc]
    exact hbelow.comment hc

end

/-! ## Ignored calls -/

/-- The number of ignored calls that are visited in a tree. -/
def ignoredCalls (ignored : List MethodSignature) (t : SyntaxTree) : Nat :=
  ((visited t).map fun s => (isIgnoredCall ignored s).toNat).sum

/-- Nothing that `isIgnoredCall` looks at in a statement is a comment: not the first named child,
and none of the named children of its arguments. -/
def CallClear (t : SyntaxTree) : Prop :=
  ∀ call ∈ t.namedChildren.head?, call.isComment = false ∧
    ∀ arguments ∈ call.childInField "arguments",
      ∀ argument ∈ arguments.namedChildren, argument.isComment = false

variable {ignored : List MethodSignature} {t t' : SyntaxTree}

/-- An ignored call is a statement that is not counted. -/
lemma weight_add (ignored : List MethodSignature) (t : SyntaxTree) :
    weight [] t = weight ignored t + (isIgnoredCall ignored t).toNat := by
  have hnone : isIgnoredCall [] t = false := rfl
  unfold weight
  rw [hnone]
  cases hcall : isIgnoredCall ignored t with
  | false => rfl
  | true =>
    have hkind : t.kind = "expression_statement" := by
      by_contra hkind
      simp [isIgnoredCall, hkind] at hcall
    simp [hkind, statementKinds]

lemma statements_add (ignored : List MethodSignature) (t : SyntaxTree) :
    statements [] t = statements ignored t + ignoredCalls ignored t := by
  rw [statements_eq_sum, statements_eq_sum, funext (weight_add ignored), List.sum_map_add]
  rfl

lemma weight_of_isComment {c : SyntaxTree} (hc : c.isComment = true) : weight [] c = 0 := by
  have hkind : c.kind ∉ statementKinds := kind_not_mem_of_isComment hc (by decide) (by decide)
  simp [weight, hkind]

lemma weight_commented (h : Commented t t') : weight [] t' = weight [] t := by
  have hcall : ∀ s, isIgnoredCall [] s = false := fun _ => rfl
  have halternative : (t'.childInField "alternative").isSome =
      (t.childInField "alternative").isSome := by
    rcases h.childInField "alternative" with ⟨hnone, hnone'⟩ | ⟨_, _, hsome, hsome', -⟩
    · rw [hnone, hnone']
    · rw [hsome, hsome']
      rfl
  unfold weight
  rw [hcall, hcall, h.kind_eq, halternative]

/-- With ignored calls counted too, comments change nothing. -/
lemma statementCount_commented (h : Commented t t') : statements [] t' = statements [] t := by
  rw [statements_eq_sum, statements_eq_sum]
  exact (commentedAll_visited t' t h).sum_map_eq (fun c hc => weight_of_isComment hc)
    fun s s' _ hs => weight_commented hs

/-- A call without comments among its arguments is the same call. -/
lemma callShape_commented (h : Commented t t')
    (hclear : ∀ arguments ∈ t'.childInField "arguments",
      ∀ argument ∈ arguments.namedChildren, argument.isComment = false) :
    callShape t' = callShape t := by
  unfold callShape
  congr 1
  · rcases h.childInField "name" with ⟨hnone, hnone'⟩ | ⟨name, name', hsome, hsome', hname⟩
    · rw [hnone, hnone']
    · rw [hsome, hsome']
      unfold SyntaxTree.textOr
      rw [Option.elim_some, Option.elim_some, hname.label_eq]
  · rcases h.childInField "arguments" with ⟨hnone, hnone'⟩ | ⟨list, list', hsome, hsome', hlist⟩
    · rw [hnone, hnone']
    · rw [hsome, hsome']
      exact hlist.namedChildren.length_eq (hclear list' hsome')

lemma isIgnoredCall_commented (h : Commented t t')
    (hclear : t'.kind = "expression_statement" → CallClear t') :
    isIgnoredCall ignored t' = isIgnoredCall ignored t := by
  unfold isIgnoredCall
  rw [h.kind_eq]
  split
  · rfl
  · next hguard =>
    have hkind : t.kind = "expression_statement" := by
      simp only [Bool.or_eq_true, bne_iff_ne, not_or, not_not] at hguard
      exact hguard.2
    have hclear : CallClear t' := hclear (h.kind_eq.trans hkind)
    have hnamed := h.namedChildren
    unfold CallClear at hclear
    -- Only how the two lists are related matters, not which trees they come from.
    generalize t.namedChildren = named at hnamed
    generalize t'.namedChildren = named' at hnamed hclear
    cases hnamed with
    | nil => rfl
    | @kept call call' _ _ hcall _ =>
      have harguments := (hclear call' rfl).2
      dsimp only
      rw [hcall.kind_eq, callShape_commented hcall harguments]
    | @comment c _ _ hc _ =>
      rw [(hclear c rfl).1] at hc
      cases hc

/-! ## Scores -/

/-- The number of ignored calls in the body of a constructor. -/
def ignoredCallsIn (ignored : List MethodSignature) (constructor : SyntaxTree) : Nat :=
  (constructor.childInField "body").elim 0 (ignoredCalls ignored)

/-- Without comments in the way, the same calls are ignored. -/
lemma ignoredCalls_commented (h : Commented t t')
    (hclear : ∀ s ∈ visited t', s.kind = "expression_statement" → CallClear s) :
    ignoredCalls ignored t' = ignoredCalls ignored t := by
  apply (commentedAll_visited t' t h).sum_map_eq
  · intro c hc
    have hkind : c.kind ∉ ["expression_statement"] :=
      kind_not_mem_of_isComment hc (by decide) (by decide)
    simp [isIgnoredCall, List.mem_singleton.not.mp hkind]
  · intro s s' hs' hs
    rw [isIgnoredCall_commented hs (hclear s' hs')]

/-- With the ignored calls added, the score of a constructor does not see comments. -/
lemma score_add_commented {constructor constructor' : SyntaxTree}
    (h : Commented constructor constructor') :
    constructorScore ignored constructor' + ignoredCallsIn ignored constructor' =
      constructorScore ignored constructor + ignoredCallsIn ignored constructor := by
  unfold ignoredCallsIn
  rw [constructorScore_eq, constructorScore_eq]
  rcases h.childInField "body" with ⟨hnone, hnone'⟩ | ⟨body, body', hsome, hsome', hbody⟩
  · rw [hnone, hnone']
  · rw [hsome, hsome']
    have hstatements := statementCount_commented hbody
    rw [statements_add ignored, statements_add ignored] at hstatements
    simp only [Option.elim_some]
    omega

lemma ignoredCallsIn_nil (constructor : SyntaxTree) : ignoredCallsIn [] constructor = 0 := by
  unfold ignoredCallsIn
  cases constructor.childInField "body" with
  | none => rfl
  | some body =>
    have hadd := statements_add [] body
    rw [Option.elim_some]
    omega

/-- **Comments and scores.**  Put any comments into a constructor.  Its score stays the same exactly
if as many calls are ignored as before.  That is so if no method is ignored, and if no comment
stands in front of a call or among its arguments. -/
theorem score_of_commented (ignored : List MethodSignature) {constructor constructor' : SyntaxTree}
    (h : Commented constructor constructor') :
    (constructorScore ignored constructor' = constructorScore ignored constructor ↔
      ignoredCallsIn ignored constructor' = ignoredCallsIn ignored constructor) ∧
    ((ignored = [] ∨ ∀ body ∈ constructor'.childInField "body", ∀ t ∈ visited body,
        t.kind = "expression_statement" → CallClear t) →
      constructorScore ignored constructor' = constructorScore ignored constructor) := by
  have hadd : constructorScore ignored constructor' + ignoredCallsIn ignored constructor' =
      constructorScore ignored constructor + ignoredCallsIn ignored constructor :=
    score_add_commented h
  refine ⟨by omega, ?_⟩
  rintro (rfl | hclear)
  · rw [ignoredCallsIn_nil, ignoredCallsIn_nil] at hadd
    exact hadd
  · have hcalls : ignoredCallsIn ignored constructor' = ignoredCallsIn ignored constructor := by
      unfold ignoredCallsIn
      rcases h.childInField "body" with ⟨hnone, hnone'⟩ | ⟨body, body', hsome, hsome', hbody⟩
      · rw [hnone, hnone']
      · rw [hsome, hsome']
        exact ignoredCalls_commented hbody (hclear body' hsome')
    omega

/-! ## A sample -/

/-- A method of one argument whose calls do not count. -/
def requireNonNull : MethodSignature :=
  ⟨⟨0⟩, "requireNonNull", [⟨⟨0⟩, 0⟩]⟩

/-- A constructor that only calls `requireNonNull`, with nodes before the call and among its
arguments. -/
def requiringConstructor (before among : List SyntaxTree) : SyntaxTree :=
  sampleNode "constructor_declaration" none "" 0 [
    sampleNode "identifier" (some "name") "A" 0 [],
    sampleNode "constructor_body" (some "body") "" 0 (before ++ [
      sampleNode "expression_statement" none "" 0 [
        sampleNode "method_invocation" none "" 0 [
          sampleNode "identifier" (some "name") "requireNonNull" 0 [],
          sampleNode "argument_list" (some "arguments") "" 0 (among ++ [
            sampleNode "identifier" none "x" 0 []])]]])]

/-- A comment. -/
def sampleComment : SyntaxTree :=
  sampleNode "block_comment" none "/* c */" 0 []

lemma commented_requiringConstructor {before before' among among' : List SyntaxTree}
    (hbefore : CommentedAll Commented before before')
    (hamong : CommentedAll Commented among among') :
    Commented (requiringConstructor before among) (requiringConstructor before' among') := by
  have harguments := Commented.node ⟨"argument_list", some "arguments", some "", 0, true⟩
    (hamong.append (commentedAll_refl [sampleNode "identifier" none "x" 0 []]))
  have hcall := Commented.node ⟨"method_invocation", none, some "", 0, true⟩
    (.kept (.refl (sampleNode "identifier" (some "name") "requireNonNull" 0 []))
      (.kept harguments .nil))
  have hstatement := Commented.node ⟨"expression_statement", none, some "", 0, true⟩
    (.kept hcall .nil)
  have hbody := Commented.node ⟨"constructor_body", some "body", some "", 0, true⟩
    (hbefore.append (.kept hstatement .nil))
  exact .node _ (.kept (.refl _) (.kept hbody .nil))

theorem score_of_commented_before :
    Commented (requiringConstructor [] []) (requiringConstructor [sampleComment] []) ∧
      constructorScore [requireNonNull] (requiringConstructor [sampleComment] []) =
        constructorScore [requireNonNull] (requiringConstructor [] []) := by
  have hcommented :
      Commented (requiringConstructor [] []) (requiringConstructor [sampleComment] []) :=
    commented_requiringConstructor (.comment (by decide) .nil) .nil
  have hclear : ∀ body ∈ (requiringConstructor [sampleComment] []).childInField "body",
      ∀ t ∈ visited body, t.kind = "expression_statement" → CallClear t := by
    unfold CallClear
    decide
  exact ⟨hcommented, (score_of_commented [requireNonNull] hcommented).2 (Or.inr hclear)⟩

/-- A comment among the arguments of an ignored call. -/
theorem score_changed_by_comment :
    Commented (requiringConstructor [] []) (requiringConstructor [] [sampleComment]) ∧
      constructorScore [requireNonNull] (requiringConstructor [] []) = 1 ∧
      constructorScore [requireNonNull] (requiringConstructor [] [sampleComment]) = 2 := by
  refine ⟨commented_requiringConstructor .nil (.comment (by decide) .nil), ?_, ?_⟩
  · rw [constructorScore_eq]
    decide
  · rw [constructorScore_eq]
    decide

end ConstructorSize

end RuleMetrics
