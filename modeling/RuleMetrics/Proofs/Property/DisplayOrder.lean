import Mathlib.Data.Prod.Lex
import Mathlib.Data.String.Basic
import RuleMetrics.Proofs.Property.Calls
import RuleMetrics.Proofs.Sorting

/-!
# The order in which properties are shown

Properties are shown by their display order and then by name.  Display orders are compared by their
bits, so that any two of them can be, zeros of either sign and NaN included.  Two properties of one
set may have the same display order but not the same name.  So one of them always stands above the
other, and there is one way to show a set, whatever order its properties were defined in
(`shown_in_one_way`).

A property is listed with the value that is stored for it, or else with its default.  The list is
therefore known from the descriptors and the stored values.
-/

namespace RuleMetrics

/-! ## Places in the display -/

namespace Descriptor

variable {a b : Descriptor}

/-- A property is shown above another: its display order is lower in the total order of
floating-point numbers, or it is the same there and the name is lesser. -/
def ShownAbove (a b : Descriptor) : Prop :=
  Decimal.totalKey32 a.info.displayOrder < Decimal.totalKey32 b.info.displayOrder ∨
    Decimal.totalKey32 a.info.displayOrder = Decimal.totalKey32 b.info.displayOrder ∧
      a.name < b.name

instance : Decidable (a.ShownAbove b) :=
  inferInstanceAs (Decidable (_ ∨ _ ∧ _))

/-- What properties are shown by. -/
def displayKey (d : Descriptor) : ℤ ×ₗ String :=
  toLex (Decimal.totalKey32 d.info.displayOrder, d.name)

lemma displayKey_lt_iff : a.displayKey < b.displayKey ↔ a.ShownAbove b := by
  unfold displayKey ShownAbove
  rw [Prod.Lex.toLex_lt_toLex]

/-- The name is part of the key. -/
lemma nodup_displayKey {ds : List Descriptor} (h : (ds.map name).Nodup) :
    (ds.map displayKey).Nodup := by
  have hname : ds.map name = (ds.map displayKey).map fun key => (ofLex key).2 := by
    rw [List.map_map]
    rfl
  rw [hname] at h
  exact h.of_map _

end Descriptor

namespace PropertySet

variable {s s' : PropertySet} {call : SetCall}

lemma shownBefore_eq (a b : Descriptor) :
    shownBefore a b = decide (a.displayKey ≤ b.displayKey) := by
  unfold shownBefore Descriptor.displayKey
  rw [Bool.eq_iff_iff, decide_eq_true_iff, Prod.Lex.toLex_le_toLex]
  simp

lemma inDisplayOrder_eq (s : PropertySet) :
    s.inDisplayOrder =
      s.descriptors.mergeSort fun a b => decide (a.displayKey ≤ b.displayKey) := by
  have hbefore : shownBefore = fun a b => decide (a.displayKey ≤ b.displayKey) := by
    funext a b
    exact shownBefore_eq a b
  unfold inDisplayOrder
  rw [hbefore]

/-- Distinct names leave one order in which each property stands above those that follow. -/
lemma shown_iff (h : (s.descriptors.map Descriptor.name).Nodup) (shown : List Descriptor) :
    shown.Perm s.descriptors ∧ shown.Pairwise Descriptor.ShownAbove ↔
      shown = s.inDisplayOrder := by
  have hkeys := Descriptor.nodup_displayKey h
  have hperm : s.inDisplayOrder.Perm s.descriptors := List.mergeSort_perm _ _
  have hascending : s.inDisplayOrder.Pairwise fun a b => a.displayKey < b.displayKey := by
    rw [inDisplayOrder_eq]
    exact List.strictlyAscending_mergeSort_key hkeys
  constructor
  · rintro ⟨hshown, habove⟩
    refine (hshown.trans hperm.symm).eq_of_ascending_keys
      ((hshown.map _).nodup_iff.mpr hkeys) ?_ (hascending.imp le_of_lt)
    exact habove.imp fun hab => (Descriptor.displayKey_lt_iff.mpr hab).le
  · rintro rfl
    exact ⟨hperm, hascending.imp Descriptor.displayKey_lt_iff.mp⟩

/-! ## Definitions that succeed -/

/-- The descriptor that a call adds, if it does. -/
def addedBy (s : PropertySet) (call : SetCall) : Option Descriptor :=
  match call, call.perform.run s with
  | .define d, .ok .. => some d
  | _, _ => none

/-- The descriptors that a run of calls adds, in the order of the calls. -/
def addedByAll (s : PropertySet) : List SetCall → List Descriptor
  | [] => []
  | call :: rest => (s.addedBy call).toList ++ (s.after call).addedByAll rest

lemma descriptors_after (s : PropertySet) (call : SetCall) :
    (s.after call).descriptors = s.descriptors ++ (s.addedBy call).toList := by
  unfold after addedBy
  rcases perform_cases s call with ⟨e, hrun⟩ | ⟨d, rfl, -, hrun⟩ | ⟨name, raw, v, rfl, -, hrun⟩
  · rw [hrun]
    cases call <;> simp
  · rw [hrun]
    rfl
  · rw [hrun]
    simp [store]

lemma descriptors_run (s : PropertySet) (calls : List SetCall) :
    (s.run calls).descriptors = s.descriptors ++ s.addedByAll calls := by
  induction calls generalizing s with
  | nil => simp [addedByAll]
  | cons call calls ih => rw [run_cons, ih, descriptors_after, addedByAll, List.append_assoc]

/-! ## Texts -/

/-- The names that are listed are those of the descriptors. -/
lemma map_fst_texts (s : PropertySet) :
    s.texts.map Prod.fst = s.inDisplayOrder.map Descriptor.name := by
  unfold texts
  rw [List.map_map]
  rfl

/-- Sets that show the same descriptors and store the same for them list the same. -/
lemma texts_eq (h : s.Sound) (h' : s'.Sound) (hshown : s'.inDisplayOrder = s.inDisplayOrder)
    (hstored : ∀ d ∈ s.descriptors, s'.stored.lookup d.name = s.stored.lookup d.name) :
    s'.texts = s.texts := by
  unfold texts
  rw [hshown]
  apply List.map_congr_left
  intro d hd
  have hmem : d ∈ s.descriptors := List.mem_mergeSort.mp hd
  have hmem' : d ∈ s'.descriptors := List.mem_mergeSort.mp (hshown ▸ hd)
  have hvalue : s'.value? d.name = s.value? d.name := by
    unfold value?
    rw [hstored d hmem, descriptor?_of_mem h.names_nodup hmem,
      descriptor?_of_mem h'.names_nodup hmem']
  rw [hvalue]

/-- **A set is shown in one way.**  Whatever calls are made on an empty set, the descriptors that
they define are shown in the one order in which each stands above those that follow, and the list
of texts has each of their names once.  If other calls define the same descriptors in any order,
they are shown in the same order; and if what is stored for them is the same too, so are their
texts. -/
theorem shown_in_one_way (owner : String) (calls : List SetCall) :
    let s := (empty owner).run calls
    let defined := (empty owner).addedByAll calls
    (∀ shown : List Descriptor,
      shown.Perm defined ∧ shown.Pairwise Descriptor.ShownAbove ↔ shown = s.inDisplayOrder) ∧
    ((s.texts.map Prod.fst).Perm (defined.map Descriptor.name) ∧ (s.texts.map Prod.fst).Nodup) ∧
    ∀ (owner' : String) (calls' : List SetCall),
      let s' := (empty owner').run calls'
      ((empty owner').addedByAll calls').Perm defined →
        s'.inDisplayOrder = s.inDisplayOrder ∧
          ((∀ d ∈ defined, s'.stored.lookup d.name = s.stored.lookup d.name) →
            s'.texts = s.texts) := by
  intro s defined
  have hsound : s.Sound := (sound_empty owner).run calls
  have hdefined : s.descriptors = defined := descriptors_run (empty owner) calls
  have hshown := shown_iff hsound.names_nodup
  rw [hdefined] at hshown
  have hperm : s.inDisplayOrder.Perm defined := ((hshown _).mpr rfl).1
  refine ⟨hshown, ⟨?_, ?_⟩, ?_⟩
  · rw [map_fst_texts]
    exact hperm.map Descriptor.name
  · rw [map_fst_texts, (hperm.map Descriptor.name).nodup_iff, ← hdefined]
    exact hsound.names_nodup
  · intro owner' calls' s' hsame
    have hsound' : s'.Sound := (sound_empty owner').run calls'
    have hdefined' : s'.descriptors = (empty owner').addedByAll calls' :=
      descriptors_run (empty owner') calls'
    have hsort : s'.inDisplayOrder = s.inDisplayOrder := by
      rw [← hshown]
      obtain ⟨hperm', habove'⟩ := (shown_iff hsound'.names_nodup _).mpr rfl
      rw [hdefined'] at hperm'
      exact ⟨hperm'.trans hsame, habove'⟩
    refine ⟨hsort, ?_⟩
    intro hstored
    rw [← hdefined] at hstored
    exact texts_eq hsound hsound' hsort hstored

/-- A property with a display order. -/
def placedDescriptor (name : String) (order : Float32) : Descriptor :=
  .boolean ⟨name, "", order, none⟩ .absent

/-- Two properties of one display order, and one at each zero, of which one is defined twice. -/
def placedCalls : List SetCall :=
  [.define (placedDescriptor "b" 1), .define (placedDescriptor "a" 1),
    .define (placedDescriptor "plus" (Float32.ofBits 0)), .define (placedDescriptor "plus" 2),
    .define (placedDescriptor "minus" (Float32.ofBits 0x80000000))]

/-- The same properties, defined the other way round. -/
def swappedCalls : List SetCall :=
  [.define (placedDescriptor "minus" (Float32.ofBits 0x80000000)),
    .define (placedDescriptor "plus" (Float32.ofBits 0)), .define (placedDescriptor "a" 1),
    .define (placedDescriptor "b" 1)]

theorem shown_in_one_way_of_placedCalls :
    let s := (empty "Sample").run placedCalls
    let s' := (empty "Other").run swappedCalls
    ((empty "Other").addedByAll swappedCalls).Perm ((empty "Sample").addedByAll placedCalls) ∧
      s.inDisplayOrder.map Descriptor.name = ["minus", "plus", "a", "b"] ∧ s'.texts = s.texts := by
  intro s s'
  obtain ⟨hshown, -, hother⟩ := shown_in_one_way "Sample" placedCalls
  have hsame : ((empty "Other").addedByAll swappedCalls).Perm
      ((empty "Sample").addedByAll placedCalls) :=
    List.reverse_perm ((empty "Sample").addedByAll placedCalls)
  refine ⟨hsame, ?_, (hother "Other" swappedCalls hsame).2 fun d hd => rfl⟩
  have habove : ((empty "Other").addedByAll swappedCalls).Pairwise Descriptor.ShownAbove := by
    decide +kernel
  rw [← (hshown _).mp ⟨hsame, habove⟩]
  rfl

end PropertySet

end RuleMetrics
