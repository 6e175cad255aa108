import Mathlib.Data.List.Nodup
import RuleMetrics.Proofs.Property.Storage
import RuleMetrics.Rule.Threshold

/-!
# Runs of calls on a property set

A property set changes by calls that add a descriptor or configure a property.  Here a call is a
program that works on the set in place (`SetCall.perform`): it asks, reads and checks step by step,
and if it stops half-way, what it has changed by then stays changed.  `perform_define` and
`perform_configure` say that it does what `PropertySet.define` and `PropertySet.configure` compute,
and `perform_cases` all that can come of it: a call that fails has changed nothing, and one that
succeeds has added one descriptor under a new name or stored one value that was accepted.

From this follows what every run keeps (`Sound`): names of descriptors are distinct, and a stored
value belongs to a descriptor, is of its kind, and is allowed by it.  So a property can always be
read and its value written, which `property_sets_sound` states of all runs, with what their next
call can do.
-/

namespace RuleMetrics

/-- A call on a property set. -/
inductive SetCall where
  | define (d : Descriptor)
  | configure (name : String) (raw : RawValue)

/-- Why a call on a property set fails. -/
inductive SetCallError where
  | duplicate (cause : DuplicateProperty)
  | rejected (cause : ConfigureError)
deriving Repr, DecidableEq

/-- A call as a program that works on the set in place. -/
def SetCall.perform : SetCall → EStateM SetCallError PropertySet Unit
  | .define d => do
    let s ← get
    if (s.descriptor? d.name).isSome then
      throw (.duplicate ⟨d.name⟩)
    modify fun s => { s with descriptors := s.descriptors ++ [d] }
  | .configure name raw => do
    let s ← get
    let some d := s.descriptor? name
      | throw (.rejected (.unknownProperty s.owner name))
    match PropertySet.readRaw d raw with
    | .error cause => throw (.rejected (.unreadable name cause))
    | .ok v =>
      if let some cause := d.problem v then
        throw (.rejected (.notAllowed name cause))
      modify fun s => { s with stored := PropertySet.insertStored name v s.stored }

namespace PropertySet

variable {s s' : PropertySet} {name other : String} {raw : RawValue} {d : Descriptor}
  {v : TypedValue} {call : SetCall}

/-- The set after a call, whether it failed or not. -/
def after (s : PropertySet) (call : SetCall) : PropertySet :=
  match call.perform.run s with
  | .ok _ s' => s'
  | .error _ s' => s'

/-- The set after some calls. -/
def run (s : PropertySet) (calls : List SetCall) : PropertySet :=
  calls.foldl after s

@[simp] lemma run_nil (s : PropertySet) : s.run [] = s := rfl

@[simp] lemma run_cons (s : PropertySet) (call : SetCall) (calls : List SetCall) :
    s.run (call :: calls) = (s.after call).run calls := rfl

/-! ## What a call can do -/

/-- Adding a descriptor in place is adding it. -/
lemma perform_define (s : PropertySet) (d : Descriptor) :
    (SetCall.define d).perform.run s =
      match s.define d with
      | .ok s' => .ok () s'
      | .error cause => .error (.duplicate cause) s := by
  unfold define SetCall.perform
  simp only [EStateM.run_bind, EStateM.run_get]
  by_cases h : (s.descriptor? d.name).isSome
  · simp only [h, if_true, EStateM.run_bind, EStateM.run_throw]
  · simp [h]

/-- Configuring a property in place is configuring it. -/
lemma perform_configure (s : PropertySet) (name : String) (raw : RawValue) :
    (SetCall.configure name raw).perform.run s =
      match s.configure name raw with
      | .ok s' => .ok () s'
      | .error cause => .error (.rejected cause) s := by
  unfold configure SetCall.perform
  simp only [EStateM.run_bind, EStateM.run_get]
  cases s.descriptor? name with
  | none => simp only [EStateM.run_throw]
  | some d =>
    dsimp only
    cases readRaw d raw with
    | error cause => simp only [EStateM.run_throw]
    | ok v =>
      dsimp only
      cases d.problem v with
      | some cause => simp only [EStateM.run_bind, EStateM.run_throw]
      | none => simp

/-- All that can come of a call: an error and the set as it was, one more descriptor under a new
name, or one more stored value that was accepted. -/
lemma perform_cases (s : PropertySet) (call : SetCall) :
    (∃ e, call.perform.run s = .error e s) ∨
      (∃ d, call = .define d ∧ s.descriptor? d.name = none ∧
        call.perform.run s = .ok () { s with descriptors := s.descriptors ++ [d] }) ∨
      ∃ name raw v, call = .configure name raw ∧ s.accept name raw = .ok v ∧
        call.perform.run s = .ok () (s.store name v) := by
  cases call with
  | define d =>
    rw [perform_define]
    unfold define
    by_cases h : (s.descriptor? d.name).isSome
    · exact Or.inl ⟨.duplicate ⟨d.name⟩, by rw [if_pos h]⟩
    · exact Or.inr (Or.inl ⟨d, rfl, Option.not_isSome_iff_eq_none.mp h, by rw [if_neg h]⟩)
  | configure name raw =>
    rw [perform_configure, configure_eq]
    cases haccept : s.accept name raw with
    | error cause => exact Or.inl ⟨.rejected cause, rfl⟩
    | ok v => exact Or.inr (Or.inr ⟨name, raw, v, rfl, haccept, rfl⟩)

lemma after_cases (s : PropertySet) (call : SetCall) :
    s.after call = s ∨
      (∃ d, call = .define d ∧ s.descriptor? d.name = none ∧
        s.after call = { s with descriptors := s.descriptors ++ [d] }) ∨
      ∃ name raw v, call = .configure name raw ∧ s.accept name raw = .ok v ∧
        s.after call = s.store name v := by
  unfold after
  rcases perform_cases s call with ⟨e, hrun⟩ | ⟨d, hcall, hnew, hrun⟩ |
    ⟨name, raw, v, hcall, haccept, hrun⟩
  · exact Or.inl (by rw [hrun])
  · exact Or.inr (Or.inl ⟨d, hcall, hnew, by rw [hrun]⟩)
  · exact Or.inr (Or.inr ⟨name, raw, v, hcall, haccept, by rw [hrun]⟩)

/-! ## Descriptors by name -/

lemma descriptor?_eq_none_iff :
    s.descriptor? name = none ↔ name ∉ s.descriptors.map Descriptor.name := by
  unfold descriptor?
  rw [List.find?_eq_none, List.mem_map]
  simp

/-- A descriptor is found for good. -/
lemma descriptor?_append (h : s.descriptor? name = some d) (added : Descriptor) :
    ({ s with descriptors := s.descriptors ++ [added] } : PropertySet).descriptor? name =
      some d := by
  unfold descriptor? at h ⊢
  rw [List.find?_append, h]
  rfl

/-- Under distinct names each descriptor is found by its own. -/
lemma descriptor?_of_mem (hnodup : (s.descriptors.map Descriptor.name).Nodup)
    (hd : d ∈ s.descriptors) : s.descriptor? d.name = some d := by
  cases hfind : s.descriptor? d.name with
  | none => exact absurd (List.mem_map_of_mem hd) (descriptor?_eq_none_iff.mp hfind)
  | some found =>
    have hname : found.name = d.name := by simpa using List.find?_some hfind
    have hmem : found ∈ s.descriptors := List.mem_of_find?_eq_some hfind
    rw [List.inj_on_of_nodup_map hnodup hmem hd hname]

/-! ## What every call keeps -/

/-- Names of descriptors are distinct, and what is stored belongs to a descriptor, is of its kind,
and is allowed by it. -/
structure Sound (s : PropertySet) : Prop where
  names_nodup : (s.descriptors.map Descriptor.name).Nodup
  stored_allowed : ∀ name v, s.stored.lookup name = some v →
    ∃ d, s.descriptor? name = some d ∧ v.kind = d.kind ∧ d.problem v = none

lemma sound_empty (owner : String) : (empty owner).Sound where
  names_nodup := List.nodup_nil
  stored_allowed := by simp [empty]

lemma Sound.after (h : s.Sound) (call : SetCall) : (s.after call).Sound := by
  rcases after_cases s call with hafter | ⟨d, -, hnew, hafter⟩ |
    ⟨name, raw, v, -, haccept, hafter⟩
  · rwa [hafter]
  · rw [hafter]
    constructor
    · rw [List.map_append, List.map_singleton, ← List.concat_eq_append]
      exact h.names_nodup.concat (descriptor?_eq_none_iff.mp hnew)
    · intro name v hlookup
      obtain ⟨known, hknown, hallowed⟩ := h.stored_allowed name v hlookup
      exact ⟨known, descriptor?_append hknown d, hallowed⟩
  · rw [hafter]
    refine ⟨h.names_nodup, ?_⟩
    intro other w hlookup
    rw [descriptor?_store]
    by_cases hother : other = name
    · subst hother
      rw [lookup_store] at hlookup
      cases hlookup
      obtain ⟨d, hd, hread, hproblem⟩ := accept_eq_ok_iff.mp haccept
      exact ⟨d, hd, kind_of_readRaw hread, hproblem⟩
    · rw [lookup_store_of_ne s v hother] at hlookup
      exact h.stored_allowed other w hlookup

/-- Every run leaves a sound set. -/
lemma Sound.run (h : s.Sound) (calls : List SetCall) : (s.run calls).Sound := by
  induction calls generalizing s with
  | nil => exact h
  | cons call calls ih => exact ih (h.after call)

/-! ## What a sound set answers -/

/-- Every property has a value, and it is of the kind of its descriptor. -/
lemma Sound.exists_value (h : s.Sound) (hd : s.descriptor? name = some d) :
    ∃ v, s.value? name = some v ∧ v.kind = d.kind := by
  cases hlookup : s.stored.lookup name with
  | none =>
    refine ⟨d.default, ?_, d.kind_default⟩
    unfold value?
    rw [hlookup, hd]
    rfl
  | some v =>
    obtain ⟨owner, howner, hkind, -⟩ := h.stored_allowed name v hlookup
    cases hd.symm.trans howner
    exact ⟨v, value?_of_lookup hlookup, hkind⟩

/-- The value of every property can be written, and is listed as it is written. -/
lemma Sound.exists_text (h : s.Sound) (hd : d ∈ s.descriptors) :
    ∃ v text, s.value? d.name = some v ∧ d.write v = some text ∧ (d.name, text) ∈ s.texts := by
  obtain ⟨v, hvalue, hkind⟩ := h.exists_value (descriptor?_of_mem h.names_nodup hd)
  obtain ⟨w, rfl⟩ := Descriptor.exists_wrap hkind
  refine ⟨d.wrap w, _, hvalue, d.write_wrap w, ?_⟩
  have hshown : d ∈ s.inDisplayOrder := List.mem_mergeSort.mpr hd
  refine List.mem_map.mpr ⟨d, hshown, ?_⟩
  rw [hvalue, Option.bind_some, d.write_wrap w, Option.getD_some]

/-- The set `s'` comes from `s` by configuring the property `name` with `raw`: that property reads
as the raw value does, and nothing else is different. -/
structure ChangedBy (name : String) (raw : RawValue) (s s' : PropertySet) : Prop where
  owner : s'.owner = s.owner
  descriptors : s'.descriptors = s.descriptors
  value_self : ∃ d v, s.descriptor? name = some d ∧ readRaw d raw = .ok v ∧
    s'.value? name = some v
  value_other : ∀ other, other ≠ name → s'.value? other = s.value? other
  isConfigured_other : ∀ other, other ≠ name → s'.isConfigured other = s.isConfigured other

lemma changedBy_store (haccept : s.accept name raw = .ok v) :
    ChangedBy name raw s (s.store name v) where
  owner := rfl
  descriptors := rfl
  value_self := by
    obtain ⟨d, hd, hread, -⟩ := accept_eq_ok_iff.mp haccept
    exact ⟨d, v, hd, hread, value?_store s name v⟩
  value_other _ h := value?_store_of_ne s v h
  isConfigured_other _ h := isConfigured_store_of_ne s v h

/-- A call that fails leaves the set as it was. -/
lemma eq_of_perform_eq_error {e : SetCallError} (h : call.perform.run s = .error e s') :
    s' = s := by
  rcases perform_cases s call with ⟨_, hrun⟩ | ⟨_, -, -, hrun⟩ | ⟨_, _, _, -, -, hrun⟩
  · rw [hrun] at h
    cases h
    rfl
  · rw [hrun] at h
    cases h
  · rw [hrun] at h
    cases h

lemma changedBy_of_perform_eq_ok (h : (SetCall.configure name raw).perform.run s = .ok () s') :
    ChangedBy name raw s s' := by
  rw [perform_configure, configure_eq] at h
  cases haccept : s.accept name raw with
  | error cause =>
    rw [haccept] at h
    cases h
  | ok v =>
    rw [haccept] at h
    cases h
    exact changedBy_store haccept

/-- **Property sets stay sound.**  Whatever calls are made on an empty set, also calls that fail,
the set they leave is sound, and each of its properties has a value that can be written.  If one
more call fails, the set is as it was; if it configures a property, no other property changes. -/
theorem property_sets_sound (owner : String) (calls : List SetCall) :
    let s := (empty owner).run calls
    s.Sound ∧
      (∀ d ∈ s.descriptors, ∃ v text,
        s.value? d.name = some v ∧ d.write v = some text ∧ (d.name, text) ∈ s.texts) ∧
      (∀ (call : SetCall) (e : SetCallError) (s' : PropertySet),
        call.perform.run s = .error e s' → s' = s) ∧
      ∀ (name : String) (raw : RawValue) (s' : PropertySet),
        (SetCall.configure name raw).perform.run s = .ok () s' → ChangedBy name raw s s' := by
  intro s
  have hsound : s.Sound := (sound_empty owner).run calls
  refine ⟨hsound, fun d hd => hsound.exists_text hd, ?_, ?_⟩
  · intro call e s' herror
    exact eq_of_perform_eq_error herror
  · intro name raw s' hok
    exact changedBy_of_perform_eq_ok hok

/-- The definition of a property, and two calls that fail. -/
def sampleCalls : List SetCall :=
  [.define sigmaDescriptor, .define sigmaDescriptor, .configure "colour" (.text "red")]

theorem property_sets_sound_of_sampleCalls :
    let s := (empty "Sample").run sampleCalls
    (∃ v text, s.value? sigmaName = some v ∧ sigmaDescriptor.write v = some text ∧
      (sigmaName, text) ∈ s.texts) ∧
    (∃ e s', (SetCall.configure sigmaName (.text "lots")).perform.run s = .error e s' ∧ s' = s) ∧
    ∃ s', (SetCall.configure sigmaName (.text "2")).perform.run s = .ok () s' ∧
      ChangedBy sigmaName (.text "2") s s' := by
  intro s
  have hs : s = ⟨"Sample", [sigmaDescriptor], []⟩ := rfl
  obtain ⟨-, hwritten, hfailed, hchanged⟩ := property_sets_sound "Sample" sampleCalls
  have haccept : s.accept sigmaName (.text "2") = .ok (.float (.single 2)) := by
    have hread : (ItemFormat.float minPositiveDouble maxDouble).readText none "2" =
        .ok (.single 2) := by
      decide +kernel
    have hallowed : (ItemFormat.float minPositiveDouble maxDouble).valueProblem (.single 2) =
        none := by
      decide +kernel
    rw [hs, accept_eq_ok_iff]
    exact ⟨sigmaDescriptor, rfl, congrArg (Except.map TypedValue.float) hread, hallowed⟩
  have hdefined : sigmaDescriptor ∈ s.descriptors := List.mem_singleton_self _
  refine ⟨hwritten sigmaDescriptor hdefined, ?_, ?_⟩
  · have herror : (SetCall.configure sigmaName (.text "lots")).perform.run s =
        .error (.rejected (.unreadable sigmaName (.invalidValue "lots" .number))) s := rfl
    exact ⟨_, _, herror, hfailed _ _ _ herror⟩
  · have hok : (SetCall.configure sigmaName (.text "2")).perform.run s =
        .ok () (s.store sigmaName (.float (.single 2))) := by
      rw [perform_configure, configure_eq, haccept]
      rfl
    exact ⟨_, hok, hchanged _ _ _ hok⟩

end PropertySet

end RuleMetrics
