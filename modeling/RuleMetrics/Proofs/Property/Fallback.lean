import RuleMetrics.Proofs.Property.Calls

/-!
# What a property reads as

A property reads as the last raw value that it was configured with, and as its default if there was
none (`stored_of_lastAccepted`).  That is not the same as reading as its default whenever it is not
configured.  A blank raw value gives a single-valued property no value, and no value is stored like
any other: the property is then not configured, but its default does not come back
(`unconfigured_falls_back`, and `default_lost_by_blank` for a minimum of 100).

For a rule with a default minimum and no configured `sigma`, a blank `minimum` is therefore the one
way to be left without a threshold.
-/

namespace RuleMetrics

/-! ## Blank raw values -/

/-- Whether a raw value says nothing: a blank text, no items, or one blank item. -/
def RawValue.isBlank : RawValue → Bool
  | .text t => Text.isBlankText t
  | .items [] => true
  | .items [t] => Text.isBlankText t
  | .items (_ :: _ :: _) => false

namespace ItemFormat

variable {α : Type} {f : ItemFormat α} {delimiter : Option Char} {w : PropertyValue α}

lemma isAbsent_of_readText {text : String} (h : f.readText none text = .ok w) :
    w.isAbsent = Text.isBlankText text := by
  unfold readText at h
  dsimp only at h
  cases hblank : Text.isBlankText text with
  | true =>
    rw [hblank, if_pos rfl] at h
    cases h
    rfl
  | false =>
    rw [hblank, if_neg Bool.false_ne_true] at h
    obtain ⟨item, -, rfl⟩ := Except.map_eq_ok_iff.mp h
    rfl

/-- Blank raw values are those that give a single-valued property no value. -/
lemma isAbsent_of_readRaw {raw : RawValue} (h : f.readRaw delimiter raw = .ok w) :
    w.isAbsent = true ↔ delimiter = none ∧ raw.isBlank = true := by
  cases delimiter with
  | some d =>
    cases (hasRead_of_readRaw h).fits with
    | multi d items => simp [PropertyValue.isAbsent]
  | none =>
    cases raw with
    | text text => simp [isAbsent_of_readText h, RawValue.isBlank]
    | items texts =>
      match texts with
      | [] =>
        cases h
        simp [PropertyValue.isAbsent, RawValue.isBlank]
      | [text] => simp [isAbsent_of_readText h, RawValue.isBlank]
      | _ :: _ :: _ => cases h

end ItemFormat

namespace PropertySet

variable {s : PropertySet} {name : String} {raw : RawValue} {d : Descriptor} {v : TypedValue}
  {call : SetCall} {calls : List SetCall}

lemma isAbsent_eq_true_iff (hread : readRaw d raw = .ok v) :
    v.isAbsent = true ↔ d.info.delimiter = none ∧ raw.isBlank = true := by
  rw [Descriptor.readRaw_eq] at hread
  obtain ⟨w, hw, rfl⟩ := Except.map_eq_ok_iff.mp hread
  rw [Descriptor.isAbsent_wrap]
  exact ItemFormat.isAbsent_of_readRaw hw

lemma eq_wrap_absent (hkind : v.kind = d.kind) (habsent : v.isAbsent = true) :
    v = d.wrap .absent := by
  obtain ⟨w, rfl⟩ := Descriptor.exists_wrap hkind
  rw [Descriptor.isAbsent_wrap] at habsent
  cases w with
  | absent => rfl
  | single item => cases habsent
  | multi items => cases habsent

/-! ## The last raw value -/

/-- The raw value that a call configures a property with, if it does. -/
def acceptedBy (name : String) (s : PropertySet) (call : SetCall) : Option RawValue :=
  match call, call.perform.run s with
  | .configure other raw, .ok .. => if other = name then some raw else none
  | _, _ => none

/-- The raw value that a run of calls last configured a property with, if it did. -/
def lastAccepted (name : String) (s : PropertySet) : List SetCall → Option RawValue
  | [] => none
  | call :: rest => (lastAccepted name (s.after call) rest).or (s.acceptedBy name call)

lemma acceptedBy_eq_some (h : s.acceptedBy name call = some raw) :
    ∃ v, s.accept name raw = .ok v ∧ s.after call = s.store name v := by
  unfold acceptedBy at h
  rcases perform_cases s call with ⟨e, hrun⟩ | ⟨d, rfl, -, hrun⟩ |
    ⟨other, raw', v, rfl, haccept, hrun⟩
  · rw [hrun] at h
    cases call <;> cases h
  · cases h
  · rw [hrun] at h
    dsimp only at h
    split at h
    next hname =>
      cases h
      subst hname
      refine ⟨v, haccept, ?_⟩
      unfold after
      rw [hrun]
    · cases h

/-- A call that does not configure a property leaves what is stored for it. -/
lemma lookup_after_of_acceptedBy (h : s.acceptedBy name call = none) :
    (s.after call).stored.lookup name = s.stored.lookup name := by
  unfold acceptedBy at h
  unfold after
  rcases perform_cases s call with ⟨e, hrun⟩ | ⟨d, rfl, -, hrun⟩ |
    ⟨other, raw', v, rfl, haccept, hrun⟩
  · rw [hrun]
  · rw [hrun]
  · rw [hrun] at h ⊢
    dsimp only at h ⊢
    split at h
    · cases h
    next hother => exact lookup_store_of_ne s v (Ne.symm hother)

lemma descriptor?_after (h : s.descriptor? name = some d) (call : SetCall) :
    (s.after call).descriptor? name = some d := by
  rcases after_cases s call with hafter | ⟨added, -, -, hafter⟩ | ⟨other, raw, v, -, -, hafter⟩
  · rwa [hafter]
  · rw [hafter]
    exact descriptor?_append h added
  · rwa [hafter]

lemma descriptor?_run (h : s.descriptor? name = some d) (calls : List SetCall) :
    (s.run calls).descriptor? name = some d := by
  induction calls generalizing s with
  | nil => exact h
  | cons call calls ih => exact ih (descriptor?_after h call)

/-- What a run leaves stored for a property is what the last raw value reads as. -/
lemma stored_of_lastAccepted (s : PropertySet) (name : String) (calls : List SetCall) :
    match s.lastAccepted name calls with
    | none => (s.run calls).stored.lookup name = s.stored.lookup name
    | some raw => ∃ d v, (s.run calls).descriptor? name = some d ∧ readRaw d raw = .ok v ∧
        (s.run calls).stored.lookup name = some v := by
  induction calls generalizing s with
  | nil => rfl
  | cons call calls ih =>
    rw [lastAccepted, run_cons]
    have hrest := ih (s.after call)
    cases hlast : (s.after call).lastAccepted name calls with
    | some raw =>
      rw [hlast] at hrest
      exact hrest
    | none =>
      rw [hlast] at hrest
      dsimp only at hrest
      rw [Option.none_or]
      cases hcall : s.acceptedBy name call with
      | none => exact hrest.trans (lookup_after_of_acceptedBy hcall)
      | some raw =>
        obtain ⟨v, haccept, hafter⟩ := acceptedBy_eq_some hcall
        obtain ⟨d, hd, hread, -⟩ := accept_eq_ok_iff.mp haccept
        refine ⟨d, v, ?_, hread, ?_⟩
        · apply descriptor?_run
          rwa [hafter]
        · rw [hrest, hafter, lookup_store]

/-- A property that was never configured has nothing stored. -/
lemma lookup_run_of_lastAccepted_eq_none {owner : String}
    (hlast : (empty owner).lastAccepted name calls = none) :
    ((empty owner).run calls).stored.lookup name = none := by
  have hstored := stored_of_lastAccepted (empty owner) name calls
  rw [hlast] at hstored
  exact hstored

lemma lookup_run_of_lastAccepted_eq_some (hd : (s.run calls).descriptor? name = some d)
    (hlast : s.lastAccepted name calls = some raw) :
    ∃ v, readRaw d raw = .ok v ∧ (s.run calls).stored.lookup name = some v := by
  have hstored := stored_of_lastAccepted s name calls
  rw [hlast] at hstored
  obtain ⟨d', v, hd', hread, hlookup⟩ := hstored
  cases hd.symm.trans hd'
  exact ⟨v, hread, hlookup⟩

/-! ## Defaults -/

/-- A property that is not configured reads as its default if it never was, and as no value if its
last raw value was blank. -/
lemma value?_of_not_configured {owner : String}
    (hd : ((empty owner).run calls).descriptor? name = some d)
    (hnot : ((empty owner).run calls).isConfigured name = false) :
    match (empty owner).lastAccepted name calls with
    | none => ((empty owner).run calls).value? name = some d.default
    | some raw => d.info.delimiter = none ∧ raw.isBlank = true ∧
        ((empty owner).run calls).value? name = some (d.wrap .absent) := by
  cases hlast : (empty owner).lastAccepted name calls with
  | none =>
    have hlookup := lookup_run_of_lastAccepted_eq_none hlast
    simp [value?, hlookup, hd]
  | some raw =>
    obtain ⟨v, hread, hlookup⟩ := lookup_run_of_lastAccepted_eq_some hd hlast
    have habsent : v.isAbsent = true := by
      simpa [isConfigured, hlookup] using hnot
    obtain ⟨hsingle, hblank⟩ := (isAbsent_eq_true_iff hread).mp habsent
    refine ⟨hsingle, hblank, ?_⟩
    rw [value?_of_lookup hlookup, eq_wrap_absent (kind_of_readRaw hread) habsent]

/-- What the property `minimum` reads as, when it has a default. -/
lemma float?_minimum {owner : String} {m : Float}
    (hd : ((empty owner).run calls).descriptor? minimumName =
      some (minimumDescriptor (some m))) :
    match (empty owner).lastAccepted minimumName calls with
    | none => ((empty owner).run calls).float? minimumName = some m
    | some raw =>
      if raw.isBlank then ((empty owner).run calls).float? minimumName = none
      else ∃ x, readRaw (minimumDescriptor (some m)) raw = .ok (.float (.single x)) ∧
        ((empty owner).run calls).float? minimumName = some x := by
  cases hlast : (empty owner).lastAccepted minimumName calls with
  | none =>
    have hlookup := lookup_run_of_lastAccepted_eq_none hlast
    simp only [float?, value?, hlookup, hd]
    rfl
  | some raw =>
    obtain ⟨v, hread, hlookup⟩ := lookup_run_of_lastAccepted_eq_some hd hlast
    have hvalue := value?_of_lookup hlookup
    have hblank := isAbsent_eq_true_iff hread
    rw [Descriptor.readRaw_eq] at hread
    obtain ⟨w, hw, rfl⟩ := Except.map_eq_ok_iff.mp hread
    rw [Descriptor.isAbsent_wrap] at hblank
    cases (ItemFormat.hasRead_of_readRaw hw).fits with
    | absent =>
      have hyes : raw.isBlank = true := (hblank.mp rfl).2
      simp only [hyes, if_true, float?, hvalue]
      rfl
    | single x =>
      have hno : raw.isBlank = false := by
        by_contra h
        have := hblank.mpr ⟨rfl, by simpa using h⟩
        cases this
      simp only [hno, Bool.false_eq_true, if_false]
      refine ⟨x, ?_, ?_⟩
      · rw [Descriptor.readRaw_eq, hw]
        rfl
      · simp only [float?, hvalue]
        rfl

/-- Without a configured `sigma` the minimum decides. -/
lemma selectorFor_of_not_configured {rule : String} (h : s.isConfigured sigmaName = false) :
    selectorFor rule s =
      match s.float? minimumName with
      | some x => .ok ⟨.minimum x, (s.integer? topScoreName).map topLimit⟩
      | none => .error (.missing rule) := by
  unfold selectorFor policyFor
  rw [h, if_neg Bool.false_ne_true]
  cases s.float? minimumName <;> rfl

/-- **When defaults come back.**  In every set that calls on an empty one leave, a property that is
not configured reads as its default, unless the last raw value that it was configured with was
blank; then it is single-valued and reads as no value.  So if the minimum has a default and `sigma`
is not configured, there is a fixed threshold, the default or the one that was configured, unless
the last minimum was blank; then there is none. -/
theorem unconfigured_falls_back (owner : String) (calls : List SetCall) :
    let s := (empty owner).run calls
    (∀ (name : String) (d : Descriptor), s.descriptor? name = some d →
      s.isConfigured name = false →
      match (empty owner).lastAccepted name calls with
      | none => s.value? name = some d.default
      | some raw => d.info.delimiter = none ∧ raw.isBlank = true ∧
          s.value? name = some (d.wrap .absent)) ∧
    ∀ (rule : String) (m : Float), s.descriptor? minimumName = some (minimumDescriptor (some m)) →
      s.isConfigured sigmaName = false →
      match (empty owner).lastAccepted minimumName calls with
      | none => selectorFor rule s = .ok ⟨.minimum m, (s.integer? topScoreName).map topLimit⟩
      | some raw =>
        if raw.isBlank then selectorFor rule s = .error (.missing rule)
        else ∃ x, readRaw (minimumDescriptor (some m)) raw = .ok (.float (.single x)) ∧
          selectorFor rule s = .ok ⟨.minimum x, (s.integer? topScoreName).map topLimit⟩ := by
  intro s
  refine ⟨fun name d hd hnot => value?_of_not_configured hd hnot, ?_⟩
  intro rule m hd hnot
  have hminimum := float?_minimum hd
  rw [selectorFor_of_not_configured hnot]
  cases hlast : (empty owner).lastAccepted minimumName calls with
  | none =>
    rw [hlast] at hminimum
    have hfloat : s.float? minimumName = some m := hminimum
    simp only [hfloat]
  | some raw =>
    rw [hlast] at hminimum
    dsimp only at hminimum ⊢
    by_cases hblank : raw.isBlank = true
    · rw [if_pos hblank] at hminimum ⊢
      have hfloat : s.float? minimumName = none := hminimum
      simp only [hfloat]
    · rw [if_neg hblank] at hminimum ⊢
      obtain ⟨x, hread, hfloat⟩ := hminimum
      have hfloat' : s.float? minimumName = some x := hfloat
      exact ⟨x, hread, by simp only [hfloat']⟩

/-- The threshold properties with a default minimum of 100, and then one configuration of it. -/
def minimumCalls (raw : RawValue) : List SetCall :=
  (thresholdDescriptors (some (Decimal.floatOfNat 100))).map SetCall.define ++
    [.configure minimumName raw]

/-- A minimum that cannot be read leaves the default; a blank one does not. -/
theorem unconfigured_falls_back_of_minimumCalls :
    selectorFor "Sample" ((empty "Sample").run (minimumCalls (.text "lots"))) =
        .ok ⟨.minimum (Decimal.floatOfNat 100), none⟩ ∧
      ((empty "Sample").run (minimumCalls (.items []))).value? minimumName =
        some (.float .absent) := by
  constructor
  · exact (unconfigured_falls_back "Sample" (minimumCalls (.text "lots"))).2 "Sample" _ rfl rfl
  · exact ((unconfigured_falls_back "Sample" (minimumCalls (.items []))).1 minimumName _ rfl
      rfl).2.2

/-- A blank minimum is not configured, but takes the default away and with it the threshold. -/
theorem default_lost_by_blank :
    let s := (empty "Sample").run (minimumCalls (.text ""))
    s.descriptor? minimumName = some (minimumDescriptor (some (Decimal.floatOfNat 100))) ∧
      s.isConfigured minimumName = false ∧ s.isConfigured sigmaName = false ∧
      s.value? minimumName = some (.float .absent) ∧
      s.value? minimumName ≠
        some (minimumDescriptor (some (Decimal.floatOfNat 100))).default ∧
      selectorFor "Sample" s = .error (.missing "Sample") := by
  refine ⟨rfl, rfl, rfl, rfl, ?_, rfl⟩
  intro h
  cases h

end PropertySet

end RuleMetrics
