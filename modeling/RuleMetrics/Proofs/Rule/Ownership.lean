import Mathlib.Data.List.Infix
import RuleMetrics.Proofs.Rule.Comments
import RuleMetrics.Proofs.Rule.Measurement
import RuleMetrics.Proofs.Rule.TypeBodies

/-!
# The constructor a statement belongs to

Constructors nest, since a constructor can declare a class that has constructors again.  A statement
still counts for one of them at most (`statements_counted_once`): what is counted for a constructor
is a list of nodes below its body, told apart by their places (`countedAt`), and these lists have no
place in common.

This needs that a type body lies between a body and a constructor inside it (`Separated`).  A
constructor that stood directly among the statements of another one would have its statements
counted for both.
-/

namespace RuleMetrics.ConstructorSize

open SyntaxTree

/-! ## Counted nodes -/

/-- The constructors of some trees in preorder, with their places. -/
def constructorsAt (trees : List SyntaxTree) : List (Place × SyntaxTree) :=
  (allNodes trees).filter fun e => e.2.kind == "constructor_declaration"

/-- The body of a constructor, with its place. -/
def bodyAt? (e : Place × SyntaxTree) : Option (Place × SyntaxTree) :=
  (e.2.children.zipIdx.find? fun c => c.1.label.field == some "body").map fun c =>
    (e.1 ++ [c.2], c.1)

/-- Whether a child of a visited node is visited. -/
def isVisited (t : SyntaxTree) : Bool :=
  t.label.named && !isTypeBody t

/-- The nodes of a body that are visited to count its statements, with their places below it. -/
def visitedAt (body : SyntaxTree) : List (Place × SyntaxTree) :=
  if isTypeBody body then [] else walk isVisited body

/-- The nodes that are counted for a constructor, with their places. -/
def countedAt (ignored : List MethodSignature) (e : Place × SyntaxTree) :
    List (Place × SyntaxTree) :=
  (bodyAt? e).elim [] fun body =>
    ((visitedAt body.2).filter fun f => weight ignored f.2 != 0).map fun f =>
      (body.1 ++ f.1, f.2)

/-- The places of the nodes that are counted for a constructor. -/
def countedPlaces (ignored : List MethodSignature) (e : Place × SyntaxTree) : List Place :=
  (countedAt ignored e).map Prod.fst

/-- Between the body of a constructor and a constructor at its place or below lies a type body. -/
def Separated (trees : List SyntaxTree) : Prop :=
  ∀ e ∈ constructorsAt trees, ∀ body ∈ bodyAt? e, ∀ e' ∈ constructorsAt trees,
    body.1 <+: e'.1 →
      ∃ f ∈ allNodes trees, body.1 <+: f.1 ∧ f.1 <+: e'.1 ∧ isTypeBody f.2 = true

/-- What is counted for a constructor: nodes of the file, each once and each a statement, and the
score is one and what they add. -/
structure CountedFor (ignored : List MethodSignature) (trees : List SyntaxTree)
    (e : Place × SyntaxTree) : Prop where
  nodup : (countedPlaces ignored e).Nodup
  mem : ∀ f ∈ countedAt ignored e, f ∈ allNodes trees ∧ f.2.kind ∈ statementKinds
  score : constructorScore ignored e.2 =
    1 + ((countedAt ignored e).map fun f => weight ignored f.2).sum

/-! ## The constructors of a file -/

lemma constructorsAt_map_snd (trees : List SyntaxTree) :
    (constructorsAt trees).map Prod.snd = constructors trees := by
  rw [constructors_eq_filter, ← walkFrom_eq_preorderAll 0 trees, List.filter_map]
  rfl

lemma mem_constructorsAt_iff {trees : List SyntaxTree} {e : Place × SyntaxTree} :
    e ∈ constructorsAt trees ↔
      nodeAmong? e.1 trees = some e.2 ∧ e.2.kind = "constructor_declaration" := by
  rw [constructorsAt, List.mem_filter, beq_iff_eq]
  exact and_congr_left' mem_allNodes_iff

lemma nodup_constructorsAt (trees : List SyntaxTree) :
    ((constructorsAt trees).map Prod.fst).Nodup :=
  (List.filter_sublist.map Prod.fst).nodup (nodup_walkFrom 0 trees)

/-! ## The nodes counted for one constructor -/

section Body

variable {e body : Place × SyntaxTree}

lemma bodyAt?_map_snd (e : Place × SyntaxTree) :
    (bodyAt? e).map Prod.snd = e.2.childInField "body" := by
  have hchildren : e.2.children = e.2.children.zipIdx.map Prod.fst := by
    rw [List.zipIdx_map_fst]
  unfold bodyAt? childInField
  conv_rhs => rw [hchildren]
  rw [List.find?_map, Option.map_map]
  rfl

/-- The body is a child of the constructor. -/
lemma exists_of_mem_bodyAt? (h : body ∈ bodyAt? e) :
    ∃ i, body.1 = e.1 ++ [i] ∧ nodeAt? [i] e.2 = some body.2 := by
  obtain ⟨c, hc, rfl⟩ := Option.map_eq_some_iff.mp h
  have hchild : e.2.children[c.2]? = some c.1 :=
    List.mem_zipIdx_iff_getElem?.mp (List.mem_of_find?_eq_some hc)
  exact ⟨c.2, rfl, by rw [nodeAt?, hchild]; rfl⟩

/-- What stands below the body is found from there. -/
lemma nodeAmong?_body {trees : List SyntaxTree} (he : nodeAmong? e.1 trees = some e.2)
    (h : body ∈ bodyAt? e) (p : Place) :
    nodeAmong? (body.1 ++ p) trees = nodeAt? p body.2 := by
  obtain ⟨i, hplace, hchild⟩ := exists_of_mem_bodyAt? h
  rw [hplace, List.append_assoc, nodeAmong?_append he, nodeAt?_append, hchild, Option.bind_some]

end Body

mutual

lemma walk_eq_visited : (t : SyntaxTree) → isTypeBody t = false →
    (walk isVisited t).map Prod.snd = visited t
  | .node label children, h => by
    rw [walk, visited, h, if_neg Bool.false_ne_true, List.map_cons,
      walkFrom_eq_visitedBelow 0 children]

lemma walkFrom_eq_visitedBelow (i : Nat) : (trees : List SyntaxTree) →
    (walkFrom isVisited i trees).map Prod.snd = visitedBelow trees
  | [] => rfl
  | t :: rest => by
    rw [walkFrom, visitedBelow, List.map_append, walkFrom_eq_visitedBelow (i + 1) rest, isVisited]
    congr 1
    cases hbody : isTypeBody t with
    | true =>
      have hnone : visited t = [] := by
        cases t with
        | node label children => rw [visited, if_pos hbody]
      rw [hnone]
      simp
    | false =>
      have hroot := walk_eq_visited t hbody
      cases t.label.named with
      | true => simpa [List.map_map, Function.comp_def] using hroot
      | false => rfl

end

lemma visitedAt_map_snd (body : SyntaxTree) : (visitedAt body).map Prod.snd = visited body := by
  unfold visitedAt
  cases hbody : isTypeBody body with
  | true =>
    cases body with
    | node label children =>
      rw [visited, if_pos hbody]
      rfl
  | false =>
    rw [if_neg Bool.false_ne_true]
    exact walk_eq_visited body hbody

lemma mem_visitedAt_iff {body : SyntaxTree} {f : Place × SyntaxTree} :
    f ∈ visitedAt body ↔ isTypeBody body = false ∧ f ∈ walk isVisited body := by
  unfold visitedAt
  cases isTypeBody body with
  | true => simp
  | false => simp

lemma nodup_visitedAt (body : SyntaxTree) : ((visitedAt body).map Prod.fst).Nodup := by
  unfold visitedAt
  split
  · exact List.nodup_nil
  · exact nodup_walk body

/-- No type body is on the way from a body to a node that is visited, the body itself included. -/
lemma isTypeBody_of_mem_visitedAt {body s : SyntaxTree} {p r : Place}
    (h : (p, s) ∈ visitedAt body) (hr : r <+: p) {t : SyntaxTree} (ht : nodeAt? r body = some t) :
    isTypeBody t = false := by
  obtain ⟨hbody, hwalk⟩ := mem_visitedAt_iff.mp h
  cases r with
  | nil =>
    obtain rfl : body = t := Option.some.inj ht
    exact hbody
  | cons i r =>
    have hvisited : isVisited t = true := enters_of_mem_walk hwalk hr (List.cons_ne_nil i r) ht
    simpa using (Bool.and_eq_true_iff.mp hvisited).2

section Counted

variable {ignored : List MethodSignature} {e f : Place × SyntaxTree}

lemma mem_countedAt_iff :
    f ∈ countedAt ignored e ↔ ∃ body ∈ bodyAt? e, ∃ g ∈ visitedAt body.2,
      weight ignored g.2 ≠ 0 ∧ f = (body.1 ++ g.1, g.2) := by
  unfold countedAt
  cases bodyAt? e with
  | none => simp
  | some body =>
    simp only [Option.elim_some, List.mem_map, List.mem_filter, bne_iff_ne, Option.mem_some_iff,
      exists_eq_left', and_assoc, eq_comm (a := f)]

/-- What is counted for a constructor is a node of the file. -/
lemma mem_allNodes_of_mem_countedAt {trees : List SyntaxTree}
    (he : nodeAmong? e.1 trees = some e.2) (hf : f ∈ countedAt ignored e) :
    f ∈ allNodes trees := by
  obtain ⟨body, hbody, g, hg, -, rfl⟩ := mem_countedAt_iff.mp hf
  rw [mem_allNodes_iff, nodeAmong?_body he hbody]
  exact nodeAt?_of_mem_walk (mem_visitedAt_iff.mp hg).2

lemma kind_of_weight_ne_zero {t : SyntaxTree} (h : weight ignored t ≠ 0) :
    t.kind ∈ statementKinds := by
  unfold weight at h
  split at h
  · next hcounted =>
    exact List.contains_iff_mem.mp (Bool.and_eq_true_iff.mp hcounted).1
  · exact absurd rfl h

lemma nodup_countedPlaces (ignored : List MethodSignature) (e : Place × SyntaxTree) :
    (countedPlaces ignored e).Nodup := by
  unfold countedPlaces countedAt
  cases bodyAt? e with
  | none => exact List.nodup_nil
  | some body =>
    have hcounted : (((visitedAt body.2).filter fun f => weight ignored f.2 != 0).map
        Prod.fst).Nodup :=
      (List.filter_sublist.map Prod.fst).nodup (nodup_visitedAt body.2)
    have hplaces := hcounted.map (List.append_right_injective body.1)
    rw [List.map_map] at hplaces
    rw [Option.elim_some, List.map_map]
    exact hplaces

lemma sum_filter_weight (nodes : List (Place × SyntaxTree)) :
    ((nodes.filter fun f => weight ignored f.2 != 0).map fun f => weight ignored f.2).sum =
      (nodes.map fun f => weight ignored f.2).sum := by
  induction nodes with
  | nil => rfl
  | cons f rest ih =>
    rw [List.filter_cons, List.map_cons, List.sum_cons, ← ih]
    split
    · rw [List.map_cons, List.sum_cons]
    · next hzero =>
      have hzero : weight ignored f.2 = 0 := by
        simpa using hzero
      rw [hzero, Nat.zero_add]

/-- The score is one and what the counted nodes add. -/
lemma constructorScore_eq_sum (ignored : List MethodSignature) (e : Place × SyntaxTree) :
    constructorScore ignored e.2 =
      1 + ((countedAt ignored e).map fun f => weight ignored f.2).sum := by
  rw [constructorScore_eq, ← bodyAt?_map_snd]
  unfold countedAt
  cases bodyAt? e with
  | none => rfl
  | some body =>
    rw [Option.map_some, Option.elim_some, Option.elim_some, List.map_map, statements_eq_sum,
      ← visitedAt_map_snd, List.map_map]
    exact congrArg _ (sum_filter_weight (visitedAt body.2)).symm

lemma countedFor {trees : List SyntaxTree} (he : e ∈ constructorsAt trees) :
    CountedFor ignored trees e where
  nodup := nodup_countedPlaces ignored e
  mem f hf := by
    refine ⟨mem_allNodes_of_mem_countedAt (mem_constructorsAt_iff.mp he).1 hf, ?_⟩
    obtain ⟨_, _, g, _, hweight, rfl⟩ := mem_countedAt_iff.mp hf
    exact kind_of_weight_ne_zero hweight
  score := constructorScore_eq_sum ignored e

end Counted

/-! ## Two constructors -/

section Separated

variable {ignored : List MethodSignature} {trees : List SyntaxTree} {e e' : Place × SyntaxTree}

/-- What is counted for a constructor does not reach past a type body, so it is not below the body
of a constructor inside it. -/
lemma not_prefix_of_mem_countedPlaces (hseparated : Separated trees)
    (he : e ∈ constructorsAt trees) (he' : e' ∈ constructorsAt trees)
    {body : Place × SyntaxTree} (hbody : body ∈ bodyAt? e) {p : Place}
    (hp : p ∈ countedPlaces ignored e) (hinside : e'.1 <+: p) : ¬ body.1 <+: e'.1 := by
  intro hbelow
  obtain ⟨f, hf, hfrom, hto, htype⟩ := hseparated e he body hbody e' he' hbelow
  obtain ⟨_, hcounted, rfl⟩ := List.mem_map.mp hp
  obtain ⟨_, hsame, g, hg, -, rfl⟩ := mem_countedAt_iff.mp hcounted
  obtain rfl := Option.some.inj (hbody.symm.trans hsame)
  obtain ⟨r, hr⟩ := hfrom
  have hway : r <+: g.1 := by
    have hprefix : body.1 ++ r <+: body.1 ++ g.1 := hr ▸ hto.trans hinside
    exact (List.prefix_append_right_inj body.1).mp hprefix
  have hnode : nodeAt? r body.2 = some f.2 := by
    rw [← nodeAmong?_body (mem_constructorsAt_iff.mp he).1 hbody, hr]
    exact mem_allNodes_iff.mp hf
  rw [isTypeBody_of_mem_visitedAt hg hway hnode] at htype
  cases htype

lemma exists_prefix_of_mem_countedPlaces {p : Place} (hp : p ∈ countedPlaces ignored e) :
    ∃ body ∈ bodyAt? e, body.1 <+: p := by
  obtain ⟨_, hcounted, rfl⟩ := List.mem_map.mp hp
  obtain ⟨body, hbody, g, -, -, rfl⟩ := mem_countedAt_iff.mp hcounted
  exact ⟨body, hbody, List.prefix_append body.1 g.1⟩

/-- If two constructors had a counted node in common, neither body could be inside the other. -/
lemma not_prefix_bodies (hseparated : Separated trees) (he : e ∈ constructorsAt trees)
    (he' : e' ∈ constructorsAt trees) (hne : e.1 ≠ e'.1) {body body' : Place × SyntaxTree}
    (hbody : body ∈ bodyAt? e) (hbody' : body' ∈ bodyAt? e') {p : Place}
    (hp : p ∈ countedPlaces ignored e) (hinside : body'.1 <+: p) : ¬ body.1 <+: body'.1 := by
  intro hprefix
  obtain ⟨i, hplace, -⟩ := exists_of_mem_bodyAt? hbody
  obtain ⟨j, hplace', -⟩ := exists_of_mem_bodyAt? hbody'
  rw [hplace'] at hprefix hinside
  rcases List.prefix_concat_iff.mp hprefix with hsame | hbelow
  · exact hne (List.append_inj_left' (hplace.symm.trans hsame) rfl)
  · have hconstructor : e'.1 <+: p := (List.prefix_append e'.1 [j]).trans hinside
    exact not_prefix_of_mem_countedPlaces hseparated he he' hbody hp hconstructor hbelow

lemma disjoint_countedPlaces (hseparated : Separated trees) (he : e ∈ constructorsAt trees)
    (he' : e' ∈ constructorsAt trees) (hne : e.1 ≠ e'.1) :
    (countedPlaces ignored e).Disjoint (countedPlaces ignored e') := by
  intro p hp hp'
  obtain ⟨body, hbody, hprefix⟩ := exists_prefix_of_mem_countedPlaces hp
  obtain ⟨body', hbody', hprefix'⟩ := exists_prefix_of_mem_countedPlaces hp'
  rcases List.prefix_or_prefix_of_prefix hprefix hprefix' with hbelow | hbelow
  · exact not_prefix_bodies hseparated he he' hne hbody hbody' hp hprefix' hbelow
  · exact not_prefix_bodies hseparated he' he hne.symm hbody' hbody hp' hprefix hbelow

end Separated

/-! ## Replaced type bodies -/

/-- With a type body below it replaced, a constructor stays where it is and has the same score. -/
lemma exists_constructor_of_replaced {ignored : List MethodSignature} {trees : List SyntaxTree}
    {k : Nat} {e old : Place × SyntaxTree} {new : SyntaxTree}
    (he : (constructorsAt trees)[k]? = some e) (hold : old ∈ allNodes trees)
    (hbelow : e.1 <+: old.1) (h : ReplacesBody old.2 new) :
    ∃ c, (constructorsAt (replaceAmong new old.1 trees))[k]? = some (e.1, c) ∧
      constructorScore ignored c = constructorScore ignored e.2 := by
  obtain ⟨hconstructor, hkind⟩ := mem_constructorsAt_iff.mp (List.mem_of_getElem? he)
  obtain ⟨p, hp⟩ := hbelow
  have hnode : nodeAt? p e.2 = some old.2 := by
    rw [← nodeAmong?_append hconstructor, hp]
    exact mem_allNodes_iff.mp hold
  have hsame : SameOutside e.2 (replaceAt new p e.2) := sameOutside_replaceAt hnode h
  have hbody : isTypeBody e.2 = false := by
    rw [isTypeBody, hkind]
    decide
  have halike : AlikeUpTo e.1 e.2 (replaceAt new p e.2) (allNodes trees)
      (allNodes (replaceAmong new old.1 trees)) :=
    hp ▸ alikeUpTo_replaceAmong hconstructor
  have hplace : (constructorsAt (replaceAmong new old.1 trees))[k]? =
      some (e.1, replaceAt new p e.2) :=
    halike.getElem?_filter (nodup_walkFrom 0 trees) (hsame.of_not_isTypeBody hbody).1
      (fun label => label.kind == "constructor_declaration") he
  exact ⟨replaceAt new p e.2, hplace, constructorScore_sameOutside hsame hbody⟩

/-! ## A sample -/

/-- The body of a local class with a constructor that holds some statements. -/
def sampleClassBody (statements : List SyntaxTree) : SyntaxTree :=
  sampleNode "class_body" (some "body") "" 1 [
    sampleNode "constructor_declaration" none "" 1 [
      sampleNode "constructor_body" (some "body") "" 1 statements]]

/-- A constructor with a statement and a local class. -/
def sampleOuter (classBody : SyntaxTree) : SyntaxTree :=
  sampleNode "constructor_declaration" none "" 0 [
    sampleNode "constructor_body" (some "body") "" 0 [
      sampleNode "throw_statement" none "" 0 [],
      sampleNode "class_declaration" none "" 1 [classBody]]]

def sampleReturn : SyntaxTree :=
  sampleNode "return_statement" none "" 1 []

/-- A file with a constructor and another one in its local class. -/
def localClassSource : Source :=
  ⟨ByteArray.empty, [sampleOuter (sampleClassBody [sampleReturn])]⟩

/-! ## The whole file -/

/-- **Each statement counts once.**  Measuring a file gives a point for each constructor, in
preorder, with a score that is one and what the nodes counted for it add.  If type bodies lie
between bodies and the constructors inside them, no node is counted for two constructors.  And
whatever replaces a type body below a constructor, the constructor is measured at the same position
with the same score. -/
theorem statements_counted_once (properties : PropertySet) (source : Source) :
    let ignored := properties.methods ignoredCallsName
    let found := constructorsAt source.tree
    (∃ m, measure properties source = .ok m ∧ m.points = found.zipIdx.map fun e =>
      ⟨e.2, Decimal.floatOfNat (constructorScore ignored e.1.2), e.2⟩) ∧
    (∀ e ∈ found, CountedFor ignored source.tree e) ∧
    (Separated source.tree →
      found.Pairwise fun e e' => (countedPlaces ignored e).Disjoint (countedPlaces ignored e')) ∧
    ∀ (k : Nat) (e : Place × SyntaxTree), found[k]? = some e →
      ∀ old ∈ allNodes source.tree, e.1 <+: old.1 → ∀ new, ReplacesBody old.2 new →
        ∃ c, (constructorsAt (replaceAmong new old.1 source.tree))[k]? = some (e.1, c) ∧
          constructorScore ignored c = constructorScore ignored e.2 := by
  intro ignored found
  refine ⟨⟨_, rfl, ?_⟩, fun e he => countedFor he, fun hseparated => ?_,
    fun k e he old hold hbelow new h => exists_constructor_of_replaced he hold hbelow h⟩
  · rw [points_measureAll, ← constructorsAt_map_snd, List.zipIdx_map, List.map_map]
    rfl
  · have hplaces : found.Pairwise fun e e' => e.1 ≠ e'.1 :=
      List.pairwise_map.mp (nodup_constructorsAt source.tree)
    refine hplaces.imp_of_mem fun he he' hne => ?_
    exact disjoint_countedPlaces hseparated he he' hne

theorem statements_counted_once_of_localClassSource :
    Separated localClassSource.tree ∧
    (constructorsAt localClassSource.tree).map (countedPlaces []) =
      [[[0, 0, 0]], [[0, 0, 1, 0, 0, 0, 0]]] ∧
    ((constructorsAt localClassSource.tree).Pairwise fun e e' =>
      (countedPlaces [] e).Disjoint (countedPlaces [] e')) ∧
    ∃ c, (constructorsAt
        (replaceAmong (sampleClassBody []) [0, 0, 1, 0] localClassSource.tree))[0]? =
          some ([0], c) ∧ constructorScore [] c = 2 := by
  obtain ⟨-, -, hdisjoint, hreplaced⟩ :=
    statements_counted_once (PropertySet.empty ruleName) localClassSource
  have hseparated : Separated localClassSource.tree := by
    unfold Separated
    decide
  have hreplaces : ReplacesBody (sampleClassBody [sampleReturn]) (sampleClassBody []) :=
    ⟨rfl, by decide, rfl, rfl, rfl⟩
  have houter : (constructorsAt localClassSource.tree)[0]? =
      some ([0], sampleOuter (sampleClassBody [sampleReturn])) := rfl
  have hbody : ([0, 0, 1, 0], sampleClassBody [sampleReturn]) ∈ allNodes localClassSource.tree :=
    mem_allNodes_iff.mpr rfl
  obtain ⟨c, hc, hscore⟩ :=
    hreplaced 0 _ houter _ hbody (by decide) (sampleClassBody []) hreplaces
  refine ⟨hseparated, by decide, hdisjoint hseparated, c, hc, hscore.trans ?_⟩
  rw [constructorScore_eq]
  decide

end RuleMetrics.ConstructorSize
