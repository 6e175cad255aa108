import RuleMetrics.Proofs.Entries
import RuleMetrics.Proofs.Property.Descriptor

/-!
# What configuring a property does

Configuring reads a raw value, checks it and stores it.  Whether the first two succeed depends on
the descriptors alone (`PropertySet.accept`); the third puts one value under one name
(`PropertySet.store`).  `configure_eq` says that there is nothing else to it.  So what is stored for
one property has no influence on the others: not on the reading of later raw values
(`accept_store`), and not on what they read as (`value?_store_of_ne`).
-/

namespace RuleMetrics.PropertySet

variable {s : PropertySet} {name other : String} {raw : RawValue} {v w : TypedValue}
  {values : List (String × TypedValue)}

/-- The value that a raw value gives a property, read and found to be allowed. -/
def accept (s : PropertySet) (name : String) (raw : RawValue) : Except ConfigureError TypedValue :=
  match s.descriptor? name with
  | none => .error (.unknownProperty s.owner name)
  | some d =>
    match readRaw d raw with
    | .error cause => .error (.unreadable name cause)
    | .ok v =>
      match d.problem v with
      | some cause => .error (.notAllowed name cause)
      | none => .ok v

/-- The set with a value stored under a name. -/
def store (s : PropertySet) (name : String) (v : TypedValue) : PropertySet :=
  { s with stored := insertStored name v s.stored }

/-- The set with some values stored, one after the other. -/
def storeAll (s : PropertySet) (values : List (String × TypedValue)) : PropertySet :=
  values.foldl (fun s e => s.store e.1 e.2) s

lemma configure_eq (s : PropertySet) (name : String) (raw : RawValue) :
    s.configure name raw = (s.accept name raw).map (s.store name) := by
  unfold configure accept
  cases s.descriptor? name with
  | none => rfl
  | some d =>
    dsimp only
    cases readRaw d raw with
    | error cause => rfl
    | ok v =>
      dsimp only
      cases d.problem v <;> rfl

lemma accept_eq_ok_iff : s.accept name raw = .ok v ↔
    ∃ d, s.descriptor? name = some d ∧ readRaw d raw = .ok v ∧ d.problem v = none := by
  unfold accept
  cases s.descriptor? name with
  | none => simp
  | some d =>
    cases hread : readRaw d raw with
    | error cause => simp [hread]
    | ok w =>
      cases hproblem : d.problem w with
      | some cause =>
        simp only [hproblem, Option.some.injEq, exists_eq_left', hread, Except.ok.injEq,
          reduceCtorEq, false_iff, not_and]
        rintro rfl
        simp [hproblem]
      | none =>
        simp only [hproblem, Option.some.injEq, exists_eq_left', hread, Except.ok.injEq]
        constructor
        · rintro rfl
          exact ⟨rfl, hproblem⟩
        · exact And.left

/-- A value that was read is of the kind of its descriptor. -/
lemma kind_of_readRaw {d : Descriptor} (h : readRaw d raw = .ok v) : v.kind = d.kind := by
  rw [Descriptor.readRaw_eq] at h
  obtain ⟨w, -, rfl⟩ := Except.map_eq_ok_iff.mp h
  exact d.kind_wrap w

/-! ## Stored values -/

lemma lookup_insertStored (name : String) (v : TypedValue) (stored : List (String × TypedValue))
    (other : String) : (insertStored name v stored).lookup other =
      if other = name then some v else stored.lookup other := by
  induction stored with
  | nil => exact lookup_cons_eq other (name, v) []
  | cons entry rest ih =>
    unfold insertStored
    by_cases hkey : entry.1 = name
    · rw [if_pos hkey, lookup_cons_eq, lookup_cons_eq, hkey]
      by_cases h : other = name
      · rw [if_pos h, if_pos h]
      · rw [if_neg h, if_neg h, if_neg h]
    · rw [if_neg hkey, lookup_cons_eq, lookup_cons_eq, ih]
      by_cases h : other = entry.1
      · rw [if_pos h, if_pos h, if_neg (h ▸ hkey)]
      · rw [if_neg h, if_neg h]

@[simp] lemma lookup_store (s : PropertySet) (name : String) (v : TypedValue) :
    (s.store name v).stored.lookup name = some v := by
  simp [store, lookup_insertStored]

lemma lookup_store_of_ne (s : PropertySet) (v : TypedValue) (h : other ≠ name) :
    (s.store name v).stored.lookup other = s.stored.lookup other := by
  simp [store, lookup_insertStored, h]

@[simp] lemma descriptor?_store (s : PropertySet) (name : String) (v : TypedValue) :
    (s.store name v).descriptor? = s.descriptor? := rfl

/-- What is stored does not matter to the reading of raw values. -/
@[simp] lemma accept_store (s : PropertySet) (name : String) (v : TypedValue) :
    (s.store name v).accept = s.accept := rfl

/-! ## What properties read as -/

lemma value?_of_lookup (h : s.stored.lookup name = some v) : s.value? name = some v := by
  unfold value?
  rw [h]

@[simp] lemma value?_store (s : PropertySet) (name : String) (v : TypedValue) :
    (s.store name v).value? name = some v :=
  value?_of_lookup (lookup_store s name v)

lemma value?_store_of_ne (s : PropertySet) (v : TypedValue) (h : other ≠ name) :
    (s.store name v).value? other = s.value? other := by
  unfold value?
  rw [lookup_store_of_ne s v h, descriptor?_store]

lemma isConfigured_store_of_ne (s : PropertySet) (v : TypedValue) (h : other ≠ name) :
    (s.store name v).isConfigured other = s.isConfigured other := by
  unfold isConfigured
  rw [lookup_store_of_ne s v h]

/-! ## Many values -/

@[simp] lemma accept_storeAll (s : PropertySet) (values : List (String × TypedValue)) :
    (s.storeAll values).accept = s.accept := by
  induction values generalizing s with
  | nil => rfl
  | cons e values ih => exact ih (s.store e.1 e.2)

lemma value?_storeAll_of_not_mem (s : PropertySet) (h : name ∉ values.map Prod.fst) :
    (s.storeAll values).value? name = s.value? name := by
  induction values generalizing s with
  | nil => rfl
  | cons e values ih =>
    rw [List.map_cons, List.mem_cons, not_or] at h
    exact (ih (s.store e.1 e.2) h.2).trans (value?_store_of_ne s e.2 h.1)

/-- Of values under distinct names each is found under its own. -/
lemma value?_storeAll_of_mem (s : PropertySet) (hnodup : (values.map Prod.fst).Nodup)
    (h : (name, v) ∈ values) : (s.storeAll values).value? name = some v := by
  induction values generalizing s with
  | nil => cases h
  | cons e values ih =>
    rw [List.map_cons, List.nodup_cons] at hnodup
    rcases List.mem_cons.mp h with rfl | h
    · exact (value?_storeAll_of_not_mem (s.store name v) hnodup.1).trans (value?_store s name v)
    · exact ih (s.store e.1 e.2) hnodup.2 h

end RuleMetrics.PropertySet
