import RuleMetrics.Proofs.Except
import RuleMetrics.Proofs.Registry.Names
import RuleMetrics.Proofs.Registry.Usage

/-!
# Runs of a builder

A run is a list of calls on a builder, of which any may fail; a call that fails leaves the builder
as it is.  `Builder.after_cases` says once what a call can do, and the two facts that carry over a
run follow from it: the tables of a builder are sound (`Builder.Sound`), and they only grow at
their ends (`Builder.Extends`).  That no name has two meanings in one table (`Builder.Distinct`)
holds even without the condition on aliases that follows.

An alias must be given to a type that the builder declared before (`Builder.Owns`).  Nothing is
asked of the ids in methods: a method on a type that does not exist is dropped, and parameters are
compared and never looked up.

The last section is about the end of a run.  `Builder.build` keeps the tables, up to the order of
the aliases, and accepts them only when they are unshadowed.
-/

namespace RuleMetrics

/-- A call on a builder. -/
inductive Call where
  | declare (name : String) (parent : Option String)
  | addAlias (name : String) (id : TypeId)
  | addMethod (owner : TypeId) (method : MethodDeclaration)
deriving Repr, DecidableEq

/-- Tables are frozen as they are, the aliases sorted, when the aliases agree with the qualified
names. -/
lemma Registry.ofTables_eq_ok_iff {types : List TypeDeclaration} {aliases : AliasTable}
    {r : Registry} :
    Registry.ofTables types aliases = .ok r ↔
      Unshadowed types aliases ∧
        r = { types
              aliases := aliases.mergeSort fun x y => decide (x.1 ≤ y.1)
              shortNames := types.mapIdx fun i t => shortNameIn aliases ⟨i⟩ t.qualifiedName } := by
  unfold Registry.ofTables
  cases hfind : aliases.find? (shadows types) with
  | none =>
    have hunshadowed : Unshadowed types aliases := by
      intro entry hentry
      simpa using List.find?_eq_none.mp hfind entry hentry
    simp [hunshadowed, eq_comm]
  | some entry =>
    constructor
    · intro h
      cases h
    · rintro ⟨hunshadowed, -⟩
      have hshadows := List.find?_some hfind
      rw [hunshadowed entry (List.mem_of_find?_eq_some hfind)] at hshadows
      cases hshadows

/-- They are rejected for the first alias that does not agree. -/
lemma Registry.ofTables_eq_error_iff {types : List TypeDeclaration} {aliases : AliasTable}
    {e : RegistryError} :
    Registry.ofTables types aliases = .error e ↔
      ∃ entry, aliases.find? (shadows types) = some entry ∧
        e = .aliasConflict entry.1 entry.1 := by
  unfold Registry.ofTables
  cases aliases.find? (shadows types) with
  | none => simp
  | some entry => simp [eq_comm]

namespace Builder

variable {b b' : Builder} {r : Registry} {name : String} {id : TypeId}

/-- What a call answers. -/
def perform (b : Builder) : Call → Except RegistryError Builder
  | .declare name parent => (b.declare name parent).map Prod.snd
  | .addAlias name id => b.addAlias name id
  | .addMethod owner method => .ok (b.addMethod owner method)

/-- The builder after a call. -/
def after (b : Builder) (call : Call) : Builder :=
  match b.perform call with
  | .ok next => next
  | .error _ => b

/-- The builder after some calls. -/
def run (b : Builder) (calls : List Call) : Builder :=
  calls.foldl after b

/-- Whether a call gives aliases to declared types only. -/
def owns (b : Builder) : Call → Bool
  | .addAlias _ id => decide (id.index < b.types.length)
  | .declare .. => true
  | .addMethod .. => true

/-- Each call of a run gives aliases only to types that the builder has declared by then. -/
def Owns (b : Builder) : List Call → Prop
  | [] => True
  | call :: rest => b.owns call = true ∧ (b.after call).Owns rest

instance decidableOwns : (b : Builder) → (calls : List Call) → Decidable (b.Owns calls)
  | _, [] => .isTrue trivial
  | b, call :: rest =>
    have := decidableOwns (b.after call) rest
    inferInstanceAs (Decidable (b.owns call = true ∧ (b.after call).Owns rest))

@[simp] lemma run_nil (b : Builder) : b.run [] = b := rfl

@[simp] lemma run_cons (b : Builder) (call : Call) (calls : List Call) :
    b.run (call :: calls) = (b.after call).run calls := rfl

lemma run_append (b : Builder) (calls calls' : List Call) :
    b.run (calls ++ calls') = (b.run calls).run calls' :=
  List.foldl_append

lemma owns_append (b : Builder) (calls calls' : List Call) :
    b.Owns (calls ++ calls') ↔ b.Owns calls ∧ (b.run calls).Owns calls' := by
  induction calls generalizing b with
  | nil => simp [Owns]
  | cons call calls ih =>
    rw [List.cons_append, Owns, Owns, ih, run_cons]
    tauto

/-! ## What a call can do -/

/-- A declaration adds a type at the end, under a new name and with a parent that was looked up. -/
lemma declare_eq_ok {parent : Option String} (h : b.declare name parent = .ok (id, b')) :
    findQualified b.types name = none ∧ id = ⟨b.types.length⟩ ∧
      ∃ parentId, parent.map b.lookup = parentId.map some ∧
        b' = { b with types := b.types ++ [⟨name, parentId, []⟩] } := by
  unfold declare at h
  split at h
  · cases h
  · next hnew =>
    rw [Option.not_isSome_iff_eq_none] at hnew
    refine ⟨hnew, ?_⟩
    cases parent with
    | none =>
      cases h
      exact ⟨rfl, none, rfl, rfl⟩
    | some parentName =>
      cases hlookup : b.lookup parentName with
      | none =>
        simp only [hlookup] at h
        cases h
      | some parentId =>
        simp only [hlookup] at h
        cases h
        exact ⟨rfl, some parentId, by simp [hlookup], rfl⟩

/-- An alias is there already or is added at the end. -/
lemma addAlias_eq_ok (h : b.addAlias name id = .ok b') :
    (b.aliases.lookup name = some id ∧ b' = b) ∨
      (b.aliases.lookup name = none ∧ b' = { b with aliases := b.aliases ++ [(name, id)] }) := by
  unfold addAlias at h
  cases hlookup : b.aliases.lookup name with
  | none =>
    simp only [hlookup] at h
    cases h
    exact Or.inr ⟨rfl, rfl⟩
  | some existing =>
    simp only [hlookup] at h
    split at h
    · next hsame =>
      cases h
      exact Or.inl ⟨congrArg some hsame, rfl⟩
    · cases h

/-- What a call can do to a builder: nothing, or one addition to its tables. -/
lemma after_cases (b : Builder) (call : Call) :
    b.after call = b ∨
      (∃ name parent parentId, call = .declare name parent ∧
        findQualified b.types name = none ∧ parent.map b.lookup = parentId.map some ∧
        b.after call = { b with types := b.types ++ [⟨name, parentId, []⟩] }) ∨
      (∃ name id, call = .addAlias name id ∧ b.aliases.lookup name = none ∧
        b.after call = { b with aliases := b.aliases ++ [(name, id)] }) ∨
      ∃ owner method, call = .addMethod owner method ∧ b.after call = b.addMethod owner method := by
  unfold after
  cases hperform : b.perform call with
  | error e => exact Or.inl rfl
  | ok next =>
    cases call with
    | declare name parent =>
      obtain ⟨⟨id, b'⟩, hdeclare, rfl⟩ := Except.map_eq_ok_iff.mp hperform
      obtain ⟨hnew, -, parentId, hparent, rfl⟩ := declare_eq_ok hdeclare
      exact Or.inr (Or.inl ⟨name, parent, parentId, rfl, hnew, hparent, rfl⟩)
    | addAlias name id =>
      rcases addAlias_eq_ok hperform with ⟨-, rfl⟩ | ⟨hnew, rfl⟩
      · exact Or.inl rfl
      · exact Or.inr (Or.inr (Or.inl ⟨name, id, rfl, hnew, rfl⟩))
    | addMethod owner method =>
      cases hperform
      exact Or.inr (Or.inr (Or.inr ⟨owner, method, rfl, rfl⟩))

/-! ## Soundness -/

/-- What a declaration fixes of each type: its name and its parent. -/
def headers (types : List TypeDeclaration) : List (String × Option TypeId) :=
  types.map fun t => (t.qualifiedName, t.parent)

lemma qualifiedNames_eq_map_headers (types : List TypeDeclaration) :
    qualifiedNames types = (headers types).map Prod.fst := by
  unfold headers qualifiedNames
  rw [List.map_map]
  rfl

lemma length_headers (types : List TypeDeclaration) : (headers types).length = types.length :=
  List.length_map _

/-- No name stands for two types in the same table of a builder. -/
structure Distinct (b : Builder) : Prop where
  names_nodup : (qualifiedNames b.types).Nodup
  aliases_nodup : (b.aliases.map Prod.fst).Nodup

/-- The tables of a builder moreover hold together: every alias belongs to a declared type, and
every parent was declared before its child. -/
structure Sound (b : Builder) : Prop extends Distinct b where
  alias_lt : ∀ entry ∈ b.aliases, entry.2.index < b.types.length
  parent_lt : ∀ (i : Nat) (t : TypeDeclaration) (p : TypeId),
    b.types[i]? = some t → t.parent = some p → p.index < i

/-- A method changes neither the name nor the parent of any type. -/
lemma headers_addMethod (b : Builder) (owner : TypeId) (method : MethodDeclaration) :
    headers (b.addMethod owner method).types = headers b.types := by
  apply List.ext_getElem?
  intro i
  simp only [headers, addMethod, List.getElem?_map, List.getElem?_modify]
  cases b.types[i]? with
  | none => rfl
  | some t => by_cases howner : owner.index = i <;> simp [howner]

lemma sound_empty : empty.Sound where
  names_nodup := List.nodup_nil
  aliases_nodup := List.nodup_nil
  alias_lt := by simp [empty]
  parent_lt := by simp [empty]

/-- A call keeps the tables distinct, whatever types its aliases are given to. -/
lemma Distinct.after (h : b.Distinct) (call : Call) : (b.after call).Distinct := by
  rcases after_cases b call with hafter | ⟨name, parent, parentId, -, hnew, -, hafter⟩ |
    ⟨name, id, -, hnew, hafter⟩ | ⟨owner, method, -, hafter⟩
  · rwa [hafter]
  · rw [hafter]
    refine ⟨?_, h.aliases_nodup⟩
    change (qualifiedNames (b.types ++ [⟨name, parentId, []⟩])).Nodup
    unfold qualifiedNames
    rw [List.map_append, List.map_singleton, ← List.concat_eq_append]
    exact h.names_nodup.concat (findQualified_eq_none_iff.mp hnew)
  · rw [hafter]
    refine ⟨h.names_nodup, ?_⟩
    rw [List.map_append, List.map_singleton, ← List.concat_eq_append]
    apply h.aliases_nodup.concat
    intro hmem
    obtain ⟨entry, hentry, heq⟩ := List.mem_map.mp hmem
    have hne := List.lookup_eq_none_iff.mp hnew entry hentry
    simp [heq] at hne
  · rw [hafter]
    refine ⟨?_, h.aliases_nodup⟩
    rw [qualifiedNames_eq_map_headers, headers_addMethod, ← qualifiedNames_eq_map_headers]
    exact h.names_nodup

/-- Every run leaves the tables distinct. -/
lemma distinct_run (calls : List Call) : (empty.run calls).Distinct := by
  suffices hrun : ∀ b : Builder, b.Distinct → (b.run calls).Distinct from
    hrun empty sound_empty.toDistinct
  induction calls with
  | nil => exact fun b h => h
  | cons call calls ih => exact fun b h => ih (b.after call) (h.after call)

/-- A name that a sound builder knows is the name of a declared type. -/
lemma Sound.lookup_lt (h : b.Sound) (hlookup : b.lookup name = some id) :
    id.index < b.types.length :=
  lt_of_findNamed h.alias_lt hlookup

/-- A parent that a declaration records is a declared type. -/
lemma Sound.parent_of_declare (h : b.Sound) {parent : Option String} {parentId : Option TypeId}
    (hparent : parent.map b.lookup = parentId.map some) :
    ∀ p, parentId = some p → p.index < b.types.length := by
  rintro p rfl
  obtain ⟨text, -, hlookup⟩ := Option.map_eq_some_iff.mp hparent
  exact h.lookup_lt hlookup

/-- A method leaves every parent before its children. -/
lemma Sound.addMethod_parent_lt (h : b.Sound) (owner : TypeId) (method : MethodDeclaration)
    {i : Nat} {t : TypeDeclaration} {p : TypeId}
    (ht : (b.addMethod owner method).types[i]? = some t) (hp : t.parent = some p) :
    p.index < i := by
  have hheader : (headers (b.addMethod owner method).types)[i]? =
      some (t.qualifiedName, t.parent) := by
    rw [headers, List.getElem?_map, ht]
    rfl
  rw [headers_addMethod, headers, List.getElem?_map, Option.map_eq_some_iff] at hheader
  obtain ⟨t', ht', heq⟩ := hheader
  obtain ⟨-, hparent⟩ := Prod.mk.inj heq
  exact h.parent_lt i t' p ht' (by rw [hparent, hp])

/-- A call keeps the tables sound. -/
lemma Sound.after (h : b.Sound) {call : Call} (howns : b.owns call = true) :
    (b.after call).Sound := by
  refine ⟨h.toDistinct.after call, ?_, ?_⟩
  · intro entry hentry
    rcases after_cases b call with hafter | ⟨name, parent, parentId, -, -, -, hafter⟩ |
      ⟨name, id, rfl, -, hafter⟩ | ⟨owner, method, -, hafter⟩
    · rw [hafter] at hentry ⊢
      exact h.alias_lt entry hentry
    · rw [hafter] at hentry ⊢
      have hlt := h.alias_lt entry hentry
      simp only [List.length_append]
      omega
    · rw [hafter] at hentry ⊢
      rcases List.mem_append.mp hentry with hentry | hentry
      · exact h.alias_lt entry hentry
      · rw [List.mem_singleton.mp hentry]
        exact of_decide_eq_true howns
    · rw [hafter] at hentry ⊢
      rw [← length_headers, headers_addMethod, length_headers]
      exact h.alias_lt entry hentry
  · intro i t p ht hp
    rcases after_cases b call with hafter | ⟨name, parent, parentId, -, -, hparent, hafter⟩ |
      ⟨name, id, -, -, hafter⟩ | ⟨owner, method, -, hafter⟩
    · rw [hafter] at ht
      exact h.parent_lt i t p ht hp
    · rw [hafter, List.getElem?_append] at ht
      split at ht
      · exact h.parent_lt i t p ht hp
      · obtain ⟨hi, rfl⟩ := List.getElem?_eq_some_iff.mp ht
        rw [List.getElem_singleton] at hp
        have hlt := h.parent_of_declare hparent p hp
        omega
    · rw [hafter] at ht
      exact h.parent_lt i t p ht hp
    · rw [hafter] at ht
      exact h.addMethod_parent_lt owner method ht hp

/-- A run keeps the tables sound. -/
lemma Sound.run (h : b.Sound) {calls : List Call} (howns : b.Owns calls) :
    (b.run calls).Sound := by
  induction calls generalizing b with
  | nil => exact h
  | cons call calls ih => exact ih (h.after howns.1) howns.2

/-- A builder that some run leaves. -/
def Reachable (b : Builder) : Prop :=
  ∃ calls, empty.Owns calls ∧ empty.run calls = b

lemma reachable_empty : empty.Reachable :=
  ⟨[], trivial, rfl⟩

/-- A call that is answered without an error leads to a builder that some run leaves. -/
lemma Reachable.perform (h : b.Reachable) (call : Call) (howns : b.owns call = true)
    (hperform : b.perform call = .ok b') : b'.Reachable := by
  obtain ⟨calls, hcalls, rfl⟩ := h
  refine ⟨calls ++ [call], ?_, ?_⟩
  · rw [owns_append]
    exact ⟨hcalls, howns, trivial⟩
  · rw [run_append, run_cons, run_nil, after, hperform]

lemma Reachable.sound (h : b.Reachable) : b.Sound := by
  obtain ⟨calls, hcalls, rfl⟩ := h
  exact sound_empty.run hcalls

/-! ## Growth -/

/-- The tables of `b` are beginnings of those of `b'`, methods apart. -/
structure Extends (b b' : Builder) : Prop where
  types : headers b.types <+: headers b'.types
  aliases : b.aliases <+: b'.aliases

lemma Extends.refl (b : Builder) : b.Extends b :=
  ⟨List.prefix_rfl, List.prefix_rfl⟩

lemma Extends.trans {b'' : Builder} (h : b.Extends b') (h' : b'.Extends b'') : b.Extends b'' :=
  ⟨h.types.trans h'.types, h.aliases.trans h'.aliases⟩

lemma extends_after (b : Builder) (call : Call) : b.Extends (b.after call) := by
  rcases after_cases b call with hafter | ⟨name, parent, parentId, -, -, -, hafter⟩ |
    ⟨name, id, -, -, hafter⟩ | ⟨owner, method, -, hafter⟩
  · rw [hafter]
    exact Extends.refl b
  · rw [hafter]
    refine ⟨?_, List.prefix_rfl⟩
    simp only [headers, List.map_append]
    exact List.prefix_append _ _
  · rw [hafter]
    exact ⟨List.prefix_rfl, List.prefix_append _ _⟩
  · rw [hafter]
    refine ⟨?_, List.prefix_rfl⟩
    simp only [headers_addMethod, List.prefix_rfl]

lemma extends_run (b : Builder) (calls : List Call) : b.Extends (b.run calls) := by
  induction calls generalizing b with
  | nil => exact Extends.refl b
  | cons call calls ih => exact (extends_after b call).trans (ih (b.after call))

/-- Looking a name up reads names and aliases only. -/
lemma lookup_eq_of_headers (htypes : headers b'.types = headers b.types)
    (haliases : b'.aliases = b.aliases) : b'.lookup = b.lookup := by
  funext name
  unfold lookup findNamed
  rw [haliases, findQualified_eq_findIdx, findQualified_eq_findIdx, qualifiedNames_eq_map_headers,
    htypes, ← qualifiedNames_eq_map_headers]

/-- What a name means it means for good, if the aliases agree with the qualified names in the
end. -/
lemma Extends.lookup (h : b.Extends b') (hunshadowed : Unshadowed b'.types b'.aliases)
    (hlookup : b.lookup name = some id) : b'.lookup name = some id := by
  refine findNamed_of_isPrefix hunshadowed ?_ h.aliases hlookup
  rw [qualifiedNames_eq_map_headers, qualifiedNames_eq_map_headers]
  exact h.types.map Prod.fst

/-! ## The end of a run -/

/-- A builder is frozen as it is when its aliases agree with the qualified names. -/
lemma build_eq_ok_iff :
    b.build = .ok r ↔
      Unshadowed b.types b.aliases ∧
        r = { types := b.types
              aliases := b.aliases.mergeSort fun x y => decide (x.1 ≤ y.1)
              shortNames := b.types.mapIdx fun i t =>
                shortNameIn b.aliases ⟨i⟩ t.qualifiedName } :=
  Registry.ofTables_eq_ok_iff

/-- Aliases that came in ascending order are kept in it. -/
lemma build_of_ascending (hunshadowed : Unshadowed b.types b.aliases)
    (hascending : b.aliases.Pairwise fun x y => decide (x.1 ≤ y.1) = true) :
    b.build = .ok {
      types := b.types
      aliases := b.aliases
      shortNames := b.types.mapIdx fun i t => shortNameIn b.aliases ⟨i⟩ t.qualifiedName } := by
  rw [build_eq_ok_iff, List.mergeSort_of_pairwise hascending]
  exact ⟨hunshadowed, rfl⟩

lemma unshadowed_of_build (hbuild : b.build = .ok r) : Unshadowed b.types b.aliases :=
  (build_eq_ok_iff.mp hbuild).1

lemma types_of_build (hbuild : b.build = .ok r) : r.types = b.types := by
  rw [(build_eq_ok_iff.mp hbuild).2]

lemma aliases_perm_of_build (hbuild : b.build = .ok r) : b.aliases.Perm r.aliases := by
  rw [(build_eq_ok_iff.mp hbuild).2]
  exact (List.mergeSort_perm _ _).symm

/-- A registry resolves names as the builder that it was frozen from. -/
lemma resolve_of_build (h : b.Distinct) (hbuild : b.build = .ok r) : r.resolve = b.lookup := by
  funext name
  unfold Registry.resolve lookup findNamed
  rw [types_of_build hbuild, lookup_eq_of_perm h.aliases_nodup (aliases_perm_of_build hbuild)]

end Builder

/-- A registry that a builder was frozen to, with aliases of its own types only. -/
def Registry.Built (r : Registry) : Prop :=
  ∃ calls, (Builder.empty.run calls).build = .ok r ∧ ∀ entry ∈ r.aliases, entry.2.index < r.size

/-- A run that gives aliases to declared types only leaves no others. -/
lemma Builder.Reachable.built {b : Builder} {r : Registry} (h : b.Reachable)
    (hbuild : b.build = .ok r) : r.Built := by
  have hsound := h.sound
  obtain ⟨calls, -, rfl⟩ := h
  refine ⟨calls, hbuild, ?_⟩
  intro entry hentry
  rw [Registry.size, types_of_build hbuild]
  exact hsound.alias_lt entry ((aliases_perm_of_build hbuild).mem_iff.mpr hentry)

end RuleMetrics
