import Mathlib.Logic.Function.Iterate
import RuleMetrics.Proofs.Registry.Consistency

/-!
# Ancestors

The walk of `Registry.ancestors` goes from a type to its parent, and all it ever asks for is the
parent of the type that it is at (`climb`).  That it ends is not up to the walk.  It ends because a
registry is consistent: parents stand before their children, so each turn leads to a smaller index
(`iterate_climb_eq`, `nodup_ancestors`).

`Registry.Chain` is the way from a type up to one of its ancestors, as a relation, with the types
that are passed on it.  A method is found at the first type on it that declares the method
(`Chain.findMethod_eq`).
-/

namespace RuleMetrics.Registry

variable {r : Registry} {id parent ancestor : TypeId} {below : List TypeId}

/-- The parent of a type, if it has one. -/
def parent? (r : Registry) (id : TypeId) : Option TypeId :=
  (r.declaration? id).bind TypeDeclaration.parent

/-- The walk goes on at the parent, since the parent stands before the child. -/
lemma ancestors_of_parent? (hr : r.Consistent) (hparent : r.parent? id = some parent) :
    r.ancestors id = id :: r.ancestors parent := by
  obtain ⟨t, ht, hp⟩ := Option.bind_eq_some_iff.mp hparent
  have hlt : parent.index < id.index := hr.parent_lt id parent t ht hp
  rw [ancestors, ht]
  simp only [hp, if_pos hlt]

/-- The walk ends at a type without a parent. -/
lemma ancestors_of_root {t : TypeDeclaration} (ht : r.declaration? id = some t)
    (hroot : r.parent? id = none) : r.ancestors id = [id] := by
  have hp : t.parent = none := by
    unfold parent? at hroot
    rwa [ht] at hroot
  rw [ancestors, ht]
  simp only [hp]

/-- The walk from a declared type starts there. -/
lemma head?_ancestors {t : TypeDeclaration} (ht : r.declaration? id = some t) :
    (r.ancestors id).head? = some id := by
  rw [ancestors, ht]
  cases hp : t.parent with
  | none => simp [hp]
  | some p =>
    simp only [hp]
    by_cases hlt : p.index < id.index
    · simp [hlt]
    · simp [hlt]

/-! ## The walk, turn by turn -/

/-- One turn of the walk: the type that is next makes way for its parent. -/
def climb (r : Registry) (next : Option TypeId) : Option TypeId :=
  next.bind r.parent?

/-- The type that the walk starts at, if the registry has it. -/
def start? (r : Registry) (id : TypeId) : Option TypeId :=
  (r.declaration? id).map fun _ => id

lemma iterate_climb_none (r : Registry) (k : Nat) : r.climb^[k] none = none :=
  Function.iterate_fixed rfl k

/-- A parent is a type of the registry. -/
lemma start?_of_parent? (hr : r.Consistent) (hparent : r.parent? id = some parent) :
    r.start? parent = some parent := by
  obtain ⟨t, ht, hp⟩ := Option.bind_eq_some_iff.mp hparent
  have hlt : parent.index < id.index := hr.parent_lt id parent t ht hp
  have hid : id.index < r.size := (List.getElem?_eq_some_iff.mp ht).1
  have hdeclared : parent.index < r.types.length := hlt.trans hid
  unfold start? declaration?
  rw [List.getElem?_eq_getElem hdeclared, Option.map_some]

/-- After `k` turns the walk is at the ancestor number `k`, and at none if there are fewer. -/
lemma iterate_climb_eq (hr : r.Consistent) (id : TypeId) (k : Nat) :
    r.climb^[k] (r.start? id) = (r.ancestors id)[k]? := by
  induction k generalizing id with
  | zero =>
    rw [Function.iterate_zero_apply, ← List.head?_eq_getElem?]
    cases ht : r.declaration? id with
    | none =>
      rw [start?, ancestors, ht]
      rfl
    | some t =>
      rw [start?, ht, head?_ancestors ht]
      rfl
  | succ k ih =>
    rw [Function.iterate_succ_apply]
    cases ht : r.declaration? id with
    | none =>
      have hstart : r.start? id = none := by
        rw [start?, ht, Option.map_none]
      rw [hstart, ancestors, ht]
      exact iterate_climb_none r k
    | some t =>
      have hstart : r.start? id = some id := by
        rw [start?, ht, Option.map_some]
      rw [hstart, climb, Option.bind_some]
      cases hparent : r.parent? id with
      | none =>
        rw [ancestors_of_root ht hparent, iterate_climb_none]
        rfl
      | some parent =>
        rw [ancestors_of_parent? hr hparent, List.getElem?_cons_succ, ← ih parent,
          start?_of_parent? hr hparent]

/-- The walk ends. -/
lemma exists_iterate_climb_eq_none (hr : r.Consistent) (id : TypeId) :
    ∃ n, r.climb^[n] (r.start? id) = none := by
  refine ⟨(r.ancestors id).length, ?_⟩
  rw [iterate_climb_eq hr]
  exact List.getElem?_eq_none le_rfl

lemma index_le_of_mem_ancestors (h : ancestor ∈ r.ancestors id) : ancestor.index ≤ id.index := by
  fun_induction r.ancestors id with
  | case1 id hnone => cases h
  | case2 id t ht hroot => rw [List.mem_singleton.mp h]
  | case3 id t ht parent hparent hlt ih =>
    rcases List.mem_cons.mp h with rfl | h
    · exact le_rfl
    · exact (ih h).trans hlt.le
  | case4 id t ht parent hparent hge => rw [List.mem_singleton.mp h]

/-- Indices get smaller on the way up, so no type is visited twice. -/
lemma nodup_ancestors (r : Registry) (id : TypeId) : (r.ancestors id).Nodup := by
  fun_induction r.ancestors id with
  | case1 id hnone => exact List.nodup_nil
  | case2 id t ht hroot => exact List.nodup_singleton id
  | case3 id t ht parent hparent hlt ih =>
    refine List.nodup_cons.mpr ⟨fun hmem => ?_, ih⟩
    have := index_le_of_mem_ancestors hmem
    omega
  | case4 id t ht parent hparent hge => exact List.nodup_singleton id

/-! ## The way to an ancestor -/

/-- The way up from a type to an ancestor: `below` are the types on it, the ancestor apart. -/
inductive Chain (r : Registry) (ancestor : TypeId) : TypeId → List TypeId → Prop where
  | here : Chain r ancestor ancestor []
  | up {id parent : TypeId} {below : List TypeId} (hparent : r.parent? id = some parent)
      (rest : Chain r ancestor parent below) : Chain r ancestor id (id :: below)

lemma Chain.ancestors_eq (hr : r.Consistent) (h : r.Chain ancestor id below) :
    r.ancestors id = below ++ r.ancestors ancestor := by
  induction h with
  | here => rfl
  | up hparent _ ih => rw [ancestors_of_parent? hr hparent, ih, List.cons_append]

/-! ## Methods -/

/-- A type itself declares a method with this name and exactly these parameters. -/
def HasMethod (r : Registry) (id : TypeId) (name : String) (parameters : List TypeUsage) : Prop :=
  ∃ t, r.declaration? id = some t ∧ ⟨name, parameters⟩ ∈ t.methods

lemma declares_iff {name : String} {parameters : List TypeUsage} :
    r.declares id name parameters = true ↔ r.HasMethod id name parameters := by
  unfold declares HasMethod
  cases ht : r.declaration? id with
  | none => simp
  | some t =>
    simp only [List.any_eq_true, Bool.and_eq_true, beq_iff_eq]
    constructor
    · rintro ⟨m, hm, rfl, rfl⟩
      exact ⟨t, rfl, hm⟩
    · rintro ⟨t', ⟨⟩, hm⟩
      exact ⟨_, hm, rfl, rfl⟩

/-- A method is found at the type itself, if that declares it. -/
lemma findMethod_of_declares {name : String} {parameters : List TypeUsage}
    (h : r.declares id name parameters = true) : r.findMethod id name parameters = some id := by
  obtain ⟨t, ht, -⟩ := declares_iff.mp h
  obtain ⟨rest, hrest⟩ := List.head?_eq_some_iff.mp (head?_ancestors ht)
  unfold findMethod
  rw [hrest, List.find?_cons]
  simp [h]

/-- A method is found at the first type on the way that declares it. -/
lemma Chain.findMethod_eq (hr : r.Consistent) (h : r.Chain ancestor id below) {name : String}
    {parameters : List TypeUsage} (hbelow : ∀ i ∈ below, r.declares i name parameters = false)
    (hancestor : r.declares ancestor name parameters = true) :
    r.findMethod id name parameters = some ancestor := by
  have hskip : below.find? (fun i => r.declares i name parameters) = none := by
    rw [List.find?_eq_none]
    intro i hi
    simp [hbelow i hi]
  have hfound := findMethod_of_declares hancestor
  unfold findMethod at hfound ⊢
  rw [h.ancestors_eq hr, List.find?_append, hskip, Option.none_or, hfound]

end RuleMetrics.Registry
