import Mathlib.Algebra.BigOperators.Group.List.Basic
import Mathlib.Algebra.Ring.Nat
import Mathlib.Tactic.Common
import RuleMetrics.Rule.ConstructorSize

/-!
# Statements of a tree

The rule counts statements with a list of nodes that are still to be visited.  Here the statements
of a tree are counted by recursion on the tree (`statements`), and the two counts agree: what was
counted and what the nodes in the list hold together are the same before and after every step
(`countPending_eq`).

The constructors of a file are likewise its nodes of that kind in preorder
(`constructors_eq_filter`).
-/

namespace RuleMetrics

/-! ## Preorder -/

namespace SyntaxTree

mutual

/-- The nodes of a tree in preorder. -/
def preorder : SyntaxTree → List SyntaxTree
  | node label children => node label children :: preorderAll children

/-- The nodes of several trees in preorder. -/
def preorderAll : List SyntaxTree → List SyntaxTree
  | [] => []
  | t :: rest => t.preorder ++ preorderAll rest

end

mutual

lemma ofKind_eq_filter (kind : String) :
    (t : SyntaxTree) → t.ofKind kind = t.preorder.filter fun s => s.kind == kind
  | node label children => by
    have hbelow := ofKindAll_eq_filter kind children
    by_cases hkind : label.kind = kind
    · simp [ofKind, preorder, SyntaxTree.kind, SyntaxTree.label, hkind, hbelow]
    · simp [ofKind, preorder, SyntaxTree.kind, SyntaxTree.label, hkind, hbelow]

/-- The nodes of some kind in preorder are those of all nodes in preorder that have the kind. -/
lemma ofKindAll_eq_filter (kind : String) :
    (trees : List SyntaxTree) →
      ofKindAll kind trees = (preorderAll trees).filter fun s => s.kind == kind
  | [] => rfl
  | t :: rest => by
    rw [ofKindAll, preorderAll, List.filter_append, ofKind_eq_filter kind t,
      ofKindAll_eq_filter kind rest]

end

end SyntaxTree

namespace ConstructorSize

/-! ## Counting by recursion -/

mutual

/-- The statements of a tree: those of its root and of the named children of it, or none if it is
the body of a type. -/
def statements (ignored : List MethodSignature) : SyntaxTree → Nat
  | .node label children =>
    if isTypeBody (.node label children) then 0
    else weight ignored (.node label children) + statementsBelow ignored children

/-- The statements of the named ones among some trees. -/
def statementsBelow (ignored : List MethodSignature) : List SyntaxTree → Nat
  | [] => 0
  | t :: rest =>
    (if t.label.named then statements ignored t else 0) + statementsBelow ignored rest

end

variable (ignored : List MethodSignature)

lemma statementsBelow_eq_sum (trees : List SyntaxTree) :
    statementsBelow ignored trees =
      ((trees.filter fun t => t.label.named).map (statements ignored)).sum := by
  induction trees with
  | nil => rfl
  | cons t rest ih =>
    rw [statementsBelow, ih]
    cases hnamed : t.label.named with
    | true => simp [hnamed]
    | false => simp [hnamed]

lemma statements_of_isTypeBody {t : SyntaxTree} (h : isTypeBody t = true) :
    statements ignored t = 0 := by
  cases t with
  | node label children => rw [statements, if_pos h]

lemma statements_of_not_isTypeBody {t : SyntaxTree} (h : isTypeBody t = false) :
    statements ignored t =
      weight ignored t + (t.namedChildren.map (statements ignored)).sum := by
  cases t with
  | node label children =>
    rw [statements, if_neg (by simp [h]), statementsBelow_eq_sum]
    rfl

/-- While nodes are visited, what was counted and the statements of the nodes that are still to be
visited make up the whole count. -/
lemma countPending_eq (count : Nat) (pending : List SyntaxTree) :
    countPending ignored count pending = count + (pending.map (statements ignored)).sum := by
  induction count, pending using countPending.induct ignored with
  | case1 count => simp [countPending]
  | case2 count t pending hbody ih =>
    rw [countPending, if_pos hbody, ih, List.map_cons, List.sum_cons,
      statements_of_isTypeBody ignored hbody, Nat.zero_add]
  | case3 count t pending hbody ih =>
    rw [countPending, if_neg hbody, ih, List.map_append, List.sum_append, List.map_reverse,
      List.sum_reverse, List.map_cons, List.sum_cons,
      statements_of_not_isTypeBody ignored (by simpa using hbody)]
    omega

lemma countStatements_eq (body : SyntaxTree) :
    countStatements ignored body = statements ignored body := by
  simp [countStatements, countPending_eq]

lemma constructorScore_eq (constructor : SyntaxTree) :
    constructorScore ignored constructor =
      1 + (constructor.childInField "body").elim 0 (statements ignored) := by
  unfold constructorScore
  rw [funext (countStatements_eq ignored)]

lemma constructors_eq_filter (trees : List SyntaxTree) :
    constructors trees =
      (SyntaxTree.preorderAll trees).filter fun t => t.kind == "constructor_declaration" :=
  SyntaxTree.ofKindAll_eq_filter _ trees

/-- A node for samples, on some line. -/
def sampleNode (kind : String) (field : Option String) (text : String) (row : Nat)
    (children : List SyntaxTree) : SyntaxTree :=
  .node ⟨kind, field, some text, row, true⟩ children

end ConstructorSize

end RuleMetrics
