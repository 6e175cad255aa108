import Mathlib.Data.List.Basic
import Mathlib.Data.List.Forall2
import Mathlib.Data.List.Nodup
import RuleMetrics.Proofs.Rule.Statements

/-!
# Places in syntax trees

Two nodes of a file can look the same, so a node is told from the others by its place: the positions
of the children on the way down to it.  A walk lists nodes in preorder with their places and goes
into a node only if it may (`walk`).  What is listed is what stands at the places whose nodes were
all entered on the way (`nodeAt?_of_mem_walk`, `enters_of_mem_walk`), no place is listed twice
(`nodup_walkFrom`), and the walk that enters every node has the nodes of `preorder`
(`walk_eq_preorder`).

A node can be replaced at its place (`replaceAt`).  A node above it then stays where it is, also in
the order of the file: what stands before it in preorder is alike (`alikeUpTo_replaceAmong`).
-/

namespace RuleMetrics.SyntaxTree

/-- The positions of the children on the way down to a node. -/
abbrev Place := List Nat

/-! ## Nodes at places -/

/-- The node at a place of a tree. -/
def nodeAt? : Place → SyntaxTree → Option SyntaxTree
  | [], t => some t
  | i :: place, t => t.children[i]?.bind (nodeAt? place)

/-- The node at a place of some trees; the first position tells the tree. -/
def nodeAmong? : Place → List SyntaxTree → Option SyntaxTree
  | [], _ => none
  | i :: place, trees => trees[i]?.bind (nodeAt? place)

lemma nodeAt?_append (p q : Place) (t : SyntaxTree) :
    nodeAt? (p ++ q) t = (nodeAt? p t).bind (nodeAt? q) := by
  induction p generalizing t with
  | nil => rfl
  | cons i p ih =>
    cases hchild : t.children[i]? with
    | none => simp [nodeAt?, hchild]
    | some child => simp [nodeAt?, hchild, ih]

/-- A node below another is found from there. -/
lemma nodeAmong?_append {p : Place} {trees : List SyntaxTree} {t : SyntaxTree}
    (h : nodeAmong? p trees = some t) (q : Place) :
    nodeAmong? (p ++ q) trees = nodeAt? q t := by
  cases p with
  | nil => cases h
  | cons i p =>
    obtain ⟨tree, htree, hnode⟩ := Option.bind_eq_some_iff.mp h
    rw [List.cons_append, nodeAmong?, htree, Option.bind_some, nodeAt?_append, hnode,
      Option.bind_some]

/-! ## Walks -/

section Walk

variable (enters : SyntaxTree → Bool)

mutual

/-- The nodes of a tree in preorder with their places: the root, and the nodes below it as far as
they are entered. -/
def walk : SyntaxTree → List (Place × SyntaxTree)
  | node label children => ([], node label children) :: walkFrom 0 children

/-- The nodes of several trees, the first of which is at position `i`. -/
def walkFrom (i : Nat) : List SyntaxTree → List (Place × SyntaxTree)
  | [] => []
  | t :: rest =>
    (if enters t then (walk t).map fun e => (i :: e.1, e.2) else []) ++ walkFrom (i + 1) rest

end

variable {enters}

lemma walk_eq (t : SyntaxTree) : walk enters t = ([], t) :: walkFrom enters 0 t.children := by
  cases t with
  | node label children => rfl

lemma mem_walkFrom_iff {i : Nat} {trees : List SyntaxTree} {e : Place × SyntaxTree} :
    e ∈ walkFrom enters i trees ↔ ∃ k t p, trees[k]? = some t ∧ enters t = true ∧
      (p, e.2) ∈ walk enters t ∧ e.1 = (i + k) :: p := by
  induction trees generalizing i with
  | nil => simp [walkFrom]
  | cons t rest ih =>
    rw [walkFrom, List.mem_append, ih]
    constructor
    · rintro (hroot | ⟨k, s, p, hs, henters, hmem, hplace⟩)
      · split at hroot
        · next henters =>
          obtain ⟨f, hf, rfl⟩ := List.mem_map.mp hroot
          exact ⟨0, t, f.1, rfl, henters, hf, rfl⟩
        · cases hroot
      · exact ⟨k + 1, s, p, hs, henters, hmem, by rw [hplace]; congr 1; omega⟩
    · rintro ⟨_ | k, s, p, hs, henters, hmem, hplace⟩
      · obtain rfl : t = s := Option.some.inj hs
        rw [if_pos henters]
        exact Or.inl (List.mem_map.mpr ⟨(p, e.2), hmem, Prod.ext hplace.symm rfl⟩)
      · exact Or.inr ⟨k, s, p, hs, henters, hmem, by rw [hplace]; congr 1; omega⟩

lemma nil_mem_walk_iff {t s : SyntaxTree} : ([], s) ∈ walk enters t ↔ s = t := by
  rw [walk_eq, List.mem_cons]
  constructor
  · rintro (hroot | hbelow)
    · exact congrArg Prod.snd hroot
    · obtain ⟨_, _, _, _, _, _, hplace⟩ := mem_walkFrom_iff.mp hbelow
      cases hplace
  · rintro rfl
    exact Or.inl rfl

lemma cons_mem_walkFrom_iff {i : Nat} {p : Place} {trees : List SyntaxTree} {s : SyntaxTree} :
    (i :: p, s) ∈ walkFrom enters 0 trees ↔
      ∃ t, trees[i]? = some t ∧ enters t = true ∧ (p, s) ∈ walk enters t := by
  rw [mem_walkFrom_iff]
  constructor
  · rintro ⟨k, t, q, ht, henters, hmem, hplace⟩
    obtain ⟨rfl, rfl⟩ : i = k ∧ p = q := by simpa using hplace
    exact ⟨t, ht, henters, hmem⟩
  · rintro ⟨t, ht, henters, hmem⟩
    exact ⟨i, t, p, ht, henters, hmem, by rw [Nat.zero_add]⟩

lemma cons_mem_walk_iff {i : Nat} {p : Place} {t s : SyntaxTree} :
    (i :: p, s) ∈ walk enters t ↔
      ∃ c, t.children[i]? = some c ∧ enters c = true ∧ (p, s) ∈ walk enters c := by
  rw [walk_eq, List.mem_cons, cons_mem_walkFrom_iff]
  simp

/-- A walk lists each node at its own place. -/
lemma nodeAt?_of_mem_walk {p : Place} {t s : SyntaxTree} (h : (p, s) ∈ walk enters t) :
    nodeAt? p t = some s := by
  induction p generalizing t with
  | nil => rw [nil_mem_walk_iff.mp h, nodeAt?]
  | cons i p ih =>
    obtain ⟨c, hc, -, hmem⟩ := cons_mem_walk_iff.mp h
    rw [nodeAt?, hc, Option.bind_some, ih hmem]

/-- Below the root, every node on the way to a listed one may be entered. -/
lemma enters_of_mem_walk {p : Place} {t s : SyntaxTree} (h : (p, s) ∈ walk enters t) {r : Place}
    (hr : r <+: p) (hroot : r ≠ []) {u : SyntaxTree} (hu : nodeAt? r t = some u) :
    enters u = true := by
  induction p generalizing t r with
  | nil => exact absurd (List.prefix_nil.mp hr) hroot
  | cons i p ih =>
    obtain ⟨c, hc, henters, hmem⟩ := cons_mem_walk_iff.mp h
    cases r with
    | nil => exact absurd rfl hroot
    | cons j r =>
      obtain ⟨rfl, hrest⟩ := List.cons_prefix_cons.mp hr
      rw [nodeAt?, hc, Option.bind_some] at hu
      cases r with
      | nil =>
        obtain rfl : c = u := Option.some.inj hu
        exact henters
      | cons k r => exact ih hmem hrest (List.cons_ne_nil k r) hu

/-- A node is listed if every node on the way to it, below the root, may be entered. -/
lemma mem_walk_of_enters {p : Place} {t s : SyntaxTree} (hs : nodeAt? p t = some s)
    (h : ∀ r, r <+: p → r ≠ [] → ∀ u ∈ nodeAt? r t, enters u = true) : (p, s) ∈ walk enters t := by
  induction p generalizing t with
  | nil => exact nil_mem_walk_iff.mpr (Option.some.inj hs).symm
  | cons i p ih =>
    obtain ⟨c, hc, hnode⟩ := Option.bind_eq_some_iff.mp hs
    have hbelow (r : Place) : nodeAt? (i :: r) t = nodeAt? r c := by
      rw [nodeAt?, hc, Option.bind_some]
    have hchild : enters c = true :=
      h [i] (by simp) (List.cons_ne_nil i []) c (hbelow [])
    refine cons_mem_walk_iff.mpr ⟨c, hc, hchild, ih hnode ?_⟩
    intro r hr _ u hu
    exact h (i :: r) (List.cons_prefix_cons.mpr ⟨rfl, hr⟩) (List.cons_ne_nil i r) u
      ((hbelow r).trans hu)

mutual

/-- No place is listed twice. -/
lemma nodup_walk : (t : SyntaxTree) → ((walk enters t).map Prod.fst).Nodup
  | .node label children => by
    rw [walk, List.map_cons, List.nodup_cons]
    refine ⟨?_, nodup_walkFrom 0 children⟩
    intro hroot
    obtain ⟨e, he, hplace⟩ := List.mem_map.mp hroot
    obtain ⟨_, _, _, _, _, _, hbelow⟩ := mem_walkFrom_iff.mp he
    rw [hplace] at hbelow
    cases hbelow

lemma nodup_walkFrom (i : Nat) :
    (trees : List SyntaxTree) → ((walkFrom enters i trees).map Prod.fst).Nodup
  | [] => List.nodup_nil
  | t :: rest => by
    rw [walkFrom, List.map_append, List.nodup_append]
    refine ⟨?_, nodup_walkFrom (i + 1) rest, ?_⟩
    · split
      · rw [List.map_map]
        have hplaces : ((walk enters t).map Prod.fst).Nodup := nodup_walk t
        have hbelow := hplaces.map (List.cons_injective (a := i))
        rwa [List.map_map] at hbelow
      · exact List.nodup_nil
    · -- The places of the first tree start with `i`, the others with a larger position.
      intro p hp q hq heq
      obtain ⟨e, he, rfl⟩ := List.mem_map.mp hp
      obtain ⟨f, hf, rfl⟩ := List.mem_map.mp hq
      obtain ⟨k, _, _, _, _, _, hlater⟩ := mem_walkFrom_iff.mp hf
      split at he
      · obtain ⟨g, _, rfl⟩ := List.mem_map.mp he
        rw [← heq, List.cons.injEq] at hlater
        omega
      · cases he

end

end Walk

/-! ## All nodes -/

/-- All nodes of some trees in preorder, with their places. -/
def allNodes (trees : List SyntaxTree) : List (Place × SyntaxTree) :=
  walkFrom (fun _ => true) 0 trees

mutual

lemma walk_eq_preorder : (t : SyntaxTree) → (walk (fun _ => true) t).map Prod.snd = t.preorder
  | .node label children => by
    rw [walk, preorder, List.map_cons, walkFrom_eq_preorderAll 0 children]

lemma walkFrom_eq_preorderAll (i : Nat) : (trees : List SyntaxTree) →
    (walkFrom (fun _ => true) i trees).map Prod.snd = preorderAll trees
  | [] => rfl
  | t :: rest => by
    rw [walkFrom, preorderAll, List.map_append, walkFrom_eq_preorderAll (i + 1) rest,
      if_pos rfl, List.map_map, ← walk_eq_preorder t]
    rfl

end

lemma mem_walk_iff {p : Place} {t s : SyntaxTree} :
    (p, s) ∈ walk (fun _ => true) t ↔ nodeAt? p t = some s :=
  ⟨nodeAt?_of_mem_walk, fun h => mem_walk_of_enters h fun _ _ _ _ _ => rfl⟩

lemma mem_allNodes_iff {p : Place} {trees : List SyntaxTree} {s : SyntaxTree} :
    (p, s) ∈ allNodes trees ↔ nodeAmong? p trees = some s := by
  cases p with
  | nil =>
    refine ⟨fun h => ?_, fun h => by cases h⟩
    obtain ⟨_, _, _, _, _, _, hplace⟩ := mem_walkFrom_iff.mp h
    cases hplace
  | cons i p =>
    rw [allNodes, cons_mem_walkFrom_iff, nodeAmong?, Option.bind_eq_some_iff]
    simp only [mem_walk_iff, true_and]

/-! ## Replacing a node -/

/-- A tree with the node at a place replaced. -/
def replaceAt (new : SyntaxTree) : Place → SyntaxTree → SyntaxTree
  | [], _ => new
  | i :: place, t => node t.label (t.children.modify i (replaceAt new place))

/-- Some trees with the node at a place replaced. -/
def replaceAmong (new : SyntaxTree) : Place → List SyntaxTree → List SyntaxTree
  | [], trees => trees
  | i :: place, trees => trees.modify i (replaceAt new place)

variable {new t : SyntaxTree}

/-! ## What stands before a node -/

/-- Two lists of nodes hold `s` and `s'` at the same place, and before it they have the same places
with nodes of which the same is known. -/
def AlikeUpTo (p : Place) (s s' : SyntaxTree) (nodes nodes' : List (Place × SyntaxTree)) : Prop :=
  ∃ before before' after after' : List (Place × SyntaxTree),
    nodes = before ++ (p, s) :: after ∧ nodes' = before' ++ (p, s') :: after' ∧
      before.map (Prod.map id label) = before'.map (Prod.map id label)

namespace AlikeUpTo

variable {p : Place} {s s' : SyntaxTree} {nodes nodes' : List (Place × SyntaxTree)}

lemma of_root (after after' : List (Place × SyntaxTree)) :
    AlikeUpTo p s s' ((p, s) :: after) ((p, s') :: after') :=
  ⟨[], [], after, after', rfl, rfl, rfl⟩

lemma append_left {first first' : List (Place × SyntaxTree)} (h : AlikeUpTo p s s' nodes nodes')
    (hfirst : first.map (Prod.map id label) = first'.map (Prod.map id label)) :
    AlikeUpTo p s s' (first ++ nodes) (first' ++ nodes') := by
  obtain ⟨before, before', after, after', rfl, rfl, hbefore⟩ := h
  refine ⟨first ++ before, first' ++ before', after, after', ?_, ?_, ?_⟩
  · rw [List.append_assoc]
  · rw [List.append_assoc]
  · rw [List.map_append, List.map_append, hfirst, hbefore]

lemma append_right (h : AlikeUpTo p s s' nodes nodes') (last last' : List (Place × SyntaxTree)) :
    AlikeUpTo p s s' (nodes ++ last) (nodes' ++ last') := by
  obtain ⟨before, before', after, after', rfl, rfl, hbefore⟩ := h
  refine ⟨before, before', after ++ last, after' ++ last', ?_, ?_, hbefore⟩
  · rw [List.append_assoc, List.cons_append]
  · rw [List.append_assoc, List.cons_append]

/-- One level further down, every place has one more position in front. -/
lemma below (h : AlikeUpTo p s s' nodes nodes') (i : Nat) :
    AlikeUpTo (i :: p) s s' (nodes.map fun e => (i :: e.1, e.2))
      (nodes'.map fun e => (i :: e.1, e.2)) := by
  obtain ⟨before, before', after, after', rfl, rfl, hbefore⟩ := h
  refine ⟨before.map fun e => (i :: e.1, e.2), before'.map fun e => (i :: e.1, e.2),
    after.map fun e => (i :: e.1, e.2), after'.map fun e => (i :: e.1, e.2), by simp, by simp, ?_⟩
  have hdown := congrArg (List.map fun e : Place × NodeLabel => (i :: e.1, e.2)) hbefore
  rw [List.map_map, List.map_map] at hdown
  rw [List.map_map, List.map_map]
  exact hdown

/-- Among the nodes that a test on what is known of them picks, `s` and `s'` are equally far. -/
lemma getElem?_filter (h : AlikeUpTo p s s' nodes nodes') (hnodup : (nodes.map Prod.fst).Nodup)
    (hlabel : s'.label = s.label) (test : NodeLabel → Bool) {k : Nat}
    (hk : (nodes.filter fun e => test e.2.label)[k]? = some (p, s)) :
    (nodes'.filter fun e => test e.2.label)[k]? = some (p, s') := by
  obtain ⟨before, before', after, after', rfl, rfl, hbefore⟩ := h
  have htest : test s.label = true :=
    (List.mem_filter.mp (List.mem_of_getElem? hk)).2
  have hlength : (before.filter fun e => test e.2.label).length =
      (before'.filter fun e => test e.2.label).length := by
    have hcount := congrArg (List.countP fun e : Place × NodeLabel => test e.2) hbefore
    rw [List.countP_map, List.countP_map] at hcount
    rw [← List.countP_eq_length_filter, ← List.countP_eq_length_filter]
    exact hcount
  have hpicked : ((before ++ (p, s) :: after).filter fun e => test e.2.label).Nodup :=
    hnodup.of_map.filter _
  rw [List.filter_append, List.filter_cons_of_pos (by exact htest)] at hk hpicked
  rw [List.filter_append, List.filter_cons_of_pos (by rw [hlabel]; exact htest)]
  -- The node is picked once only, so its position is the number of those picked before it.
  have hposition : k = (before.filter fun e => test e.2.label).length := by
    refine (List.getElem?_inj (List.getElem?_eq_some_iff.mp hk).1 hpicked).mp ?_
    rw [hk, List.getElem?_append_right (Nat.le_refl _), Nat.sub_self]
    rfl
  rw [hposition, hlength, List.getElem?_append_right (Nat.le_refl _), Nat.sub_self]
  rfl

end AlikeUpTo

lemma alikeUpTo_walkFrom {p : Place} {c s s' : SyntaxTree} {f : SyntaxTree → SyntaxTree}
    (h : AlikeUpTo p s s' (walk (fun _ => true) c) (walk (fun _ => true) (f c))) (i : Nat)
    {j : Nat} {trees : List SyntaxTree} (hc : trees[j]? = some c) :
    AlikeUpTo ((i + j) :: p) s s' (walkFrom (fun _ => true) i trees)
      (walkFrom (fun _ => true) i (trees.modify j f)) := by
  induction trees generalizing i j with
  | nil => cases hc
  | cons t rest ih =>
    cases j with
    | zero =>
      obtain rfl : t = c := Option.some.inj hc
      exact (h.below i).append_right _ _
    | succ j =>
      have hrest := ih (i + 1) hc
      rw [Nat.add_right_comm] at hrest
      exact hrest.append_left rfl

/-- When a node below `s` is replaced, nothing changes before `s`. -/
lemma alikeUpTo_replaceAt {p q : Place} {s : SyntaxTree} (h : nodeAt? p t = some s) :
    AlikeUpTo p s (replaceAt new q s) (walk (fun _ => true) t)
      (walk (fun _ => true) (replaceAt new (p ++ q) t)) := by
  induction p generalizing t with
  | nil =>
    obtain rfl : t = s := Option.some.inj h
    rw [walk_eq t, walk_eq (replaceAt new ([] ++ q) t)]
    exact .of_root _ _
  | cons i p ih =>
    obtain ⟨c, hc, hnode⟩ := Option.bind_eq_some_iff.mp h
    have hbelow := alikeUpTo_walkFrom (ih hnode) 0 hc
    rw [Nat.zero_add] at hbelow
    have hroot : [(([] : Place), t)].map (Prod.map id label) =
        [([], replaceAt new (i :: (p ++ q)) t)].map (Prod.map id label) := rfl
    rw [walk_eq t, List.cons_append, replaceAt, walk]
    exact hbelow.append_left hroot

lemma alikeUpTo_replaceAmong {p q : Place} {s : SyntaxTree} {trees : List SyntaxTree}
    (h : nodeAmong? p trees = some s) :
    AlikeUpTo p s (replaceAt new q s) (allNodes trees) (allNodes (replaceAmong new (p ++ q) trees))
    := by
  cases p with
  | nil => cases h
  | cons i p =>
    obtain ⟨tree, htree, hnode⟩ := Option.bind_eq_some_iff.mp h
    have hinner : AlikeUpTo p s (replaceAt new q s) (walk (fun _ => true) tree)
        (walk (fun _ => true) (replaceAt new (p ++ q) tree)) :=
      alikeUpTo_replaceAt hnode
    have hbelow := alikeUpTo_walkFrom hinner 0 htree
    rw [Nat.zero_add] at hbelow
    exact hbelow

end RuleMetrics.SyntaxTree
