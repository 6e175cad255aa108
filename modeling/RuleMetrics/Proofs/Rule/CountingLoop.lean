import Mathlib.Logic.Function.Iterate
import RuleMetrics.Proofs.Rule.Statements

/-!
# The loop that counts statements

Counting goes in turns.  Each turn takes one node off the nodes that are still to be visited, adds
what it counts and puts its named children in its place (`turn`).  The nodes that are left become
smaller together, so the loop comes to an end, and it ends with the count of `countStatements`
(`exists_turns`).

What it counts is fixed by a recursion on the tree, which is written out in `CountsByRecursion`
from the fields of the nodes alone.  `countStatements` is the one solution of it (`count_settled`).
A call that is ignored does not count, but what is below it does.
-/

namespace RuleMetrics.ConstructorSize

open SyntaxTree

variable {ignored : List MethodSignature} {t : SyntaxTree}

/-! ## What a node counts -/

/-- An expression statement whose first named child is a call of one of the methods: it has the
method's name and as many arguments as the method has parameters. -/
def CallsOneOf (methods : List MethodSignature) (t : SyntaxTree) : Prop :=
  t.kind = "expression_statement" ∧ ∃ call ∈ t.namedChildren.head?,
    call.kind = "method_invocation" ∧ ∃ m ∈ methods, signatureShape m = callShape call

instance decidableCallsOneOf (methods : List MethodSignature) (t : SyntaxTree) :
    Decidable (CallsOneOf methods t) :=
  inferInstanceAs (Decidable (t.kind = "expression_statement" ∧ ∃ call ∈ t.namedChildren.head?,
    call.kind = "method_invocation" ∧ ∃ m ∈ methods, signatureShape m = callShape call))

/-- A statement that counts. -/
def IsCounted (ignored : List MethodSignature) (t : SyntaxTree) : Prop :=
  t.kind ∈ statementKinds ∧ ¬ CallsOneOf ignored t

instance decidableIsCounted (ignored : List MethodSignature) (t : SyntaxTree) :
    Decidable (IsCounted ignored t) :=
  inferInstanceAs (Decidable (t.kind ∈ statementKinds ∧ ¬ CallsOneOf ignored t))

/-- An `if` with an `else`: some child, named or not, is the alternative. -/
def HasElse (t : SyntaxTree) : Prop :=
  t.kind = "if_statement" ∧ ∃ c ∈ t.children, c.label.field = some "alternative"

instance decidableHasElse (t : SyntaxTree) : Decidable (HasElse t) :=
  inferInstanceAs (Decidable
    (t.kind = "if_statement" ∧ ∃ c ∈ t.children, c.label.field = some "alternative"))

lemma isIgnoredCall_iff : isIgnoredCall ignored t = true ↔ CallsOneOf ignored t := by
  unfold isIgnoredCall CallsOneOf
  by_cases hkind : t.kind = "expression_statement"
  · cases hnamed : t.namedChildren with
    | nil => simp
    | cons call rest =>
      cases ignored with
      | nil => simp
      | cons m methods => simp [hkind]
  · simp [hkind]

lemma isSome_childInField_iff {field : String} :
    (t.childInField field).isSome = true ↔ ∃ c ∈ t.children, c.label.field = some field := by
  simp [childInField]

/-- What a node adds is one if it counts, and another one for an `else`. -/
lemma weight_eq (ignored : List MethodSignature) (t : SyntaxTree) :
    weight ignored t =
      (if IsCounted ignored t then 1 else 0) +
        if IsCounted ignored t ∧ HasElse t then 1 else 0 := by
  have hcounted : (statementKinds.contains t.kind && !isIgnoredCall ignored t) = true ↔
      IsCounted ignored t := by
    unfold IsCounted
    rw [← isIgnoredCall_iff]
    simp
  have helse : (t.kind = "if_statement" ∧ (t.childInField "alternative").isSome = true) ↔
      HasElse t := by
    unfold HasElse
    rw [isSome_childInField_iff]
  unfold weight
  simp only [hcounted, helse]
  by_cases h : IsCounted ignored t
  · by_cases h' : HasElse t
    · simp [h, h']
    · simp [h, h']
  · simp [h]

/-! ## The recursion -/

/-- The recursion on trees that says how statements are counted: none in the body of a type, and
else those of the named children and what the node itself counts. -/
def CountsByRecursion (ignored : List MethodSignature) (count : SyntaxTree → Nat) : Prop :=
  ∀ t, count t =
    if t.kind ∈ typeBodyKinds then 0
    else (t.namedChildren.map count).sum + (if IsCounted ignored t then 1 else 0) +
      if IsCounted ignored t ∧ HasElse t then 1 else 0

lemma isTypeBody_iff : isTypeBody t = true ↔ t.kind ∈ typeBodyKinds :=
  List.contains_iff_mem

lemma countsByRecursion_statements (ignored : List MethodSignature) :
    CountsByRecursion ignored (statements ignored) := by
  intro t
  by_cases hbody : t.kind ∈ typeBodyKinds
  · rw [if_pos hbody, statements_of_isTypeBody ignored (isTypeBody_iff.mpr hbody)]
  · have hvisited : isTypeBody t = false := by
      rwa [← Bool.not_eq_true, isTypeBody_iff]
    rw [if_neg hbody, statements_of_not_isTypeBody ignored hvisited, weight_eq]
    omega

lemma size_le_sizeAll {trees : List SyntaxTree} (ht : t ∈ trees) : t.size ≤ sizeAll trees := by
  induction trees with
  | nil => cases ht
  | cons s rest ih =>
    rw [sizeAll]
    rcases List.mem_cons.mp ht with rfl | ht
    · omega
    · have := ih ht
      omega

/-- Two solutions of the recursion agree on a tree if they agree on all smaller ones. -/
lemma CountsByRecursion.eq {count count' : SyntaxTree → Nat}
    (h : CountsByRecursion ignored count) (h' : CountsByRecursion ignored count') :
    count = count' := by
  funext t
  induction hsize : t.size using Nat.strong_induction_on generalizing t with
  | _ size ih =>
    subst hsize
    have hbelow : t.namedChildren.map count = t.namedChildren.map count' := by
      apply List.map_congr_left
      intro c hc
      have hlt : c.size < t.size := (size_le_sizeAll hc).trans_lt (sizeAll_namedChildren_lt t)
      exact ih c.size hlt c rfl
    rw [h t, h' t, hbelow]

/-! ## The loop -/

/-- One turn of the loop, on what was counted and the nodes that are still to be visited. -/
def turn (ignored : List MethodSignature) :
    Nat × List SyntaxTree → Nat × List SyntaxTree
  | (count, []) => (count, [])
  | (count, t :: pending) =>
    if isTypeBody t then (count, pending)
    else (count + weight ignored t, t.namedChildren.reverse ++ pending)

lemma turn_of_isTypeBody (ignored : List MethodSignature) (count : Nat)
    (pending : List SyntaxTree) (h : isTypeBody t = true) :
    turn ignored (count, t :: pending) = (count, pending) :=
  if_pos h

lemma turn_of_not_isTypeBody (ignored : List MethodSignature) (count : Nat)
    (pending : List SyntaxTree) (h : isTypeBody t = false) :
    turn ignored (count, t :: pending) =
      (count + weight ignored t, t.namedChildren.reverse ++ pending) :=
  if_neg (by simp [h])

/-- A turn leaves less to visit. -/
lemma sizeAll_turn_lt (ignored : List MethodSignature) (count : Nat) (t : SyntaxTree)
    (pending : List SyntaxTree) :
    sizeAll (turn ignored (count, t :: pending)).2 < sizeAll (t :: pending) := by
  have hbelow := sizeAll_namedChildren_lt t
  cases hbody : isTypeBody t with
  | true =>
    simp only [turn_of_isTypeBody ignored count pending hbody, sizeAll]
    omega
  | false =>
    simp only [turn_of_not_isTypeBody ignored count pending hbody, sizeAll_append,
      sizeAll_reverse, sizeAll]
    omega

/-- A turn does not change what is counted in the end. -/
lemma countPending_turn (ignored : List MethodSignature) (count : Nat) (t : SyntaxTree)
    (pending : List SyntaxTree) :
    countPending ignored (turn ignored (count, t :: pending)).1
        (turn ignored (count, t :: pending)).2 =
      countPending ignored count (t :: pending) := by
  conv_rhs => rw [countPending]
  cases hbody : isTypeBody t with
  | true =>
    rw [turn_of_isTypeBody ignored count pending hbody]
    rfl
  | false =>
    rw [turn_of_not_isTypeBody ignored count pending hbody]
    rfl

/-- From every state the loop comes to an end, after no more turns than there are nodes left, and
all is counted then. -/
lemma exists_turns (ignored : List MethodSignature) (state : Nat × List SyntaxTree) :
    ∃ n ≤ sizeAll state.2, (∀ k < n, ((turn ignored)^[k] state).2 ≠ []) ∧
      (turn ignored)^[n] state = (countPending ignored state.1 state.2, []) := by
  induction hsize : sizeAll state.2 using Nat.strong_induction_on generalizing state with
  | _ size ih =>
    subst hsize
    obtain ⟨count, pending⟩ := state
    cases pending with
    | nil => exact ⟨0, Nat.zero_le _, by simp, by rw [countPending]; rfl⟩
    | cons t pending =>
      have hlt := sizeAll_turn_lt ignored count t pending
      obtain ⟨n, hle, hbusy, hend⟩ := ih _ hlt (turn ignored (count, t :: pending)) rfl
      refine ⟨n + 1, hle.trans_lt hlt, ?_, ?_⟩
      · rintro (_ | k) hk
        · exact List.cons_ne_nil t pending
        · exact hbusy k (by omega)
      · rw [Function.iterate_succ_apply, hend, countPending_turn]

/-- **The count of statements.**  Visiting the nodes of a body one after the other comes to an end,
after as many turns as the body has nodes at most, and then the statements of the body were counted.
They are counted by the one function that satisfies the recursion on trees. -/
theorem count_settled (ignored : List MethodSignature) :
    (∀ body : SyntaxTree, ∃ n ≤ body.size,
      (∀ k < n, ((turn ignored)^[k] (0, [body])).2 ≠ []) ∧
      (turn ignored)^[n] (0, [body]) = (countStatements ignored body, [])) ∧
    ∀ count : SyntaxTree → Nat,
      CountsByRecursion ignored count ↔ count = countStatements ignored := by
  have hcount : countStatements ignored = statements ignored :=
    funext (countStatements_eq ignored)
  constructor
  · intro body
    obtain ⟨n, hle, hbusy, hend⟩ := exists_turns ignored (0, [body])
    exact ⟨n, by simpa [sizeAll] using hle, hbusy, hend⟩
  · intro count
    constructor
    · intro h
      rw [hcount]
      exact h.eq (countsByRecursion_statements ignored)
    · rintro rfl
      rw [hcount]
      exact countsByRecursion_statements ignored

/-- An `else` counts even if its branch is a lone semicolon, which has no name in the grammar. -/
example : countStatements [] (sampleNode "if_statement" none "" 0 [
    .node ⟨";", some "alternative", some ";", 0, false⟩ []]) = 2 := by
  rw [countStatements_eq]
  decide

end RuleMetrics.ConstructorSize
