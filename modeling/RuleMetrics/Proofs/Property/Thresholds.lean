import RuleMetrics.Proofs.Decimal.Count
import RuleMetrics.Proofs.Property.Fallback

/-!
# What the threshold properties settle

The selector of a rule depends on what `minimum`, `sigma` and `topscore` were last configured with,
and on the default of `minimum`.  Of the whole history of calls, with all that failed in it, one of
three things is left for each property (`Setting`): it was never configured, its last raw value was
blank, or it has an item.  The last raw value alone says which item (`Setting.Of`), so nothing of an
earlier call, or of one that failed, can reach the selector.

`thresholds_settled` is the table.  A `sigma` takes the place of a minimum and does not go together
with one; the default stands in for a minimum that was never configured, but not for a blank one.
The numbers in the table are within their bounds, because they were stored.
-/

namespace RuleMetrics

/-! ## Settings -/

/-- What a property with at most one item was last configured with. -/
inductive Setting (α : Type) where
  /-- It never was. -/
  | unset
  | blank
  | value (item : α)

namespace Setting

variable {α : Type}

/-- The item, if there is one. -/
def item? : Setting α → Option α
  | value item => some item
  | _ => none

/-- The item, and the default of a property that was never configured. -/
def itemOr (default : Option α) : Setting α → Option α
  | unset => default
  | blank => none
  | value item => some item

/-- The setting that the last raw value gives a property, if there was one.  Values are wrapped by
`wrap` for the kind of the property. -/
inductive Of (d : Descriptor) (wrap : PropertyValue α → TypedValue) :
    Option RawValue → Setting α → Prop where
  | unset : Of d wrap none .unset
  | blank {raw : RawValue} (hblank : raw.isBlank = true) : Of d wrap (some raw) .blank
  | value {raw : RawValue} {item : α} (hblank : raw.isBlank = false)
      (hread : PropertySet.readRaw d raw = .ok (wrap (.single item))) :
      Of d wrap (some raw) (.value item)

/-- What a property reads as. -/
def read (d : Descriptor) : Setting d.Item → TypedValue
  | unset => d.default
  | blank => d.wrap .absent
  | value item => d.wrap (.single item)

end Setting

/-- A property without a delimiter has no value if its raw value is blank, and otherwise one item
that was read from a text. -/
lemma ItemFormat.readRaw_none_cases {α : Type} {f : ItemFormat α} {raw : RawValue}
    {v : PropertyValue α} (h : f.readRaw none raw = .ok v) :
    raw.isBlank = true ∧ v = .absent ∨
      raw.isBlank = false ∧ ∃ item, v = .single item ∧ ∃ text, f.read text = .ok item := by
  have hblank := isAbsent_of_readRaw h
  obtain ⟨hfits, hitems⟩ := hasRead_of_readRaw h
  cases hfits with
  | absent => exact Or.inl ⟨(hblank.mp rfl).2, rfl⟩
  | single item =>
    obtain ⟨text, -, hread⟩ := hitems item List.mem_cons_self
    refine Or.inr ⟨?_, item, rfl, text, hread⟩
    simpa [PropertyValue.isAbsent] using hblank

/-- Floating-point items that are read are finite. -/
lemma ItemFormat.isFinite_of_read {min max x : Float} {text : String}
    (h : (ItemFormat.float min max).read text = .ok x) : Decimal.isFinite x = true := by
  unfold ItemFormat.float at h
  dsimp only at h
  split at h
  · split at h
    next hfinite =>
      cases h
      exact hfinite
    · cases h
  · cases h

/-- Items that are allowed are not below the lower bound. -/
lemma ItemFormat.below_eq_false {min max x : Float}
    (h : (ItemFormat.float min max).problem x = none) : Decimal.below x min = false := by
  unfold ItemFormat.float at h
  dsimp only at h
  split at h
  · cases h
  next hbounds => exact (Bool.or_eq_false_iff.mp (by simpa using hbounds)).1

lemma ItemFormat.le_of_problem {min max n : Int}
    (h : (ItemFormat.integer min max).problem n = none) : min ≤ n := by
  unfold ItemFormat.integer at h
  dsimp only at h
  split at h
  · cases h
  next hbounds => exact not_lt.mp fun hlt => hbounds (Or.inl hlt)

namespace PropertySet

variable {s : PropertySet} {name : String} {d : Descriptor}

/-- An item that was read from a text and is allowed. -/
def Admits (d : Descriptor) (item : d.Item) : Prop :=
  (∃ text, d.format.read text = .ok item) ∧ d.format.problem item = none

/-- After a run a property reads as its setting says.  It is configured when the setting is an item,
and the item is then one that the property admits. -/
lemma exists_setting (hsound : s.Sound) (hd : s.descriptor? name = some d)
    (hsingle : d.info.delimiter = none) (hnew : s.stored.lookup name = none)
    (calls : List SetCall) :
    ∃ setting, Setting.Of d d.wrap (s.lastAccepted name calls) setting ∧
      (s.run calls).value? name = some (setting.read d) ∧
      (s.run calls).isConfigured name = setting.item?.isSome ∧
      ∀ item, setting = .value item → Admits d item := by
  have hrun : (s.run calls).descriptor? name = some d := descriptor?_run hd calls
  cases hlast : s.lastAccepted name calls with
  | none =>
    have hstored := stored_of_lastAccepted s name calls
    rw [hlast] at hstored
    have hlookup : (s.run calls).stored.lookup name = none := hstored.trans hnew
    refine ⟨.unset, .unset, ?_, ?_, by simp⟩
    · simp [value?, hlookup, hrun, Setting.read]
    · simp [isConfigured, hlookup, Setting.item?]
  | some raw =>
    obtain ⟨v, hread, hlookup⟩ := lookup_run_of_lastAccepted_eq_some hrun hlast
    have hallowed : d.problem v = none := by
      obtain ⟨owner, howner, -, hproblem⟩ := (hsound.run calls).stored_allowed name v hlookup
      cases hrun.symm.trans howner
      exact hproblem
    obtain ⟨w, hw, rfl⟩ : ∃ w, d.format.readRaw d.info.delimiter raw = .ok w ∧ d.wrap w = v := by
      rwa [Descriptor.readRaw_eq, Except.map_eq_ok_iff] at hread
    have hvalue := value?_of_lookup hlookup
    have hconfigured : (s.run calls).isConfigured name = !w.isAbsent := by
      unfold isConfigured
      rw [hlookup]
      exact congrArg not (d.isAbsent_wrap w)
    rw [hsingle] at hw
    rcases ItemFormat.readRaw_none_cases hw with ⟨hblank, rfl⟩ | ⟨hblank, item, rfl, hitem⟩
    · exact ⟨.blank, .blank hblank, hvalue, hconfigured, by simp⟩
    · refine ⟨.value item, .value hblank hread, hvalue, hconfigured, ?_⟩
      rintro _ ⟨⟩
      rw [Descriptor.problem_wrap] at hallowed
      refine ⟨hitem, ?_⟩
      simpa [ItemFormat.valueProblem, PropertyValue.items] using hallowed

section Numbers

variable {info : PropertyInfo}

/-- The setting of a property with a floating-point number. -/
lemma exists_floatSetting {default : PropertyValue Float} {min max : Float} (hsound : s.Sound)
    (hd : s.descriptor? name = some (.float info default min max)) (hsingle : info.delimiter = none)
    (hnew : s.stored.lookup name = none) (hmin : Decimal.isNaN min = false)
    (calls : List SetCall) :
    ∃ setting : Setting Float,
      Setting.Of (.float info default min max) .float (s.lastAccepted name calls) setting ∧
      (s.run calls).float? name = setting.itemOr default.first? ∧
      (s.run calls).isConfigured name = setting.item?.isSome ∧
      ∀ x, setting = .value x →
        Decimal.isFinite x = true ∧ Decimal.numericKey min ≤ Decimal.numericKey x := by
  obtain ⟨setting, hsetting, hvalue, hconfigured, hadmits⟩ :=
    exists_setting hsound hd hsingle hnew calls
  refine ⟨setting, hsetting, ?_, hconfigured, ?_⟩
  · unfold float?
    rw [hvalue]
    cases setting <;> rfl
  · intro x hx
    obtain ⟨⟨text, hread⟩, hproblem⟩ := hadmits x hx
    rw [Descriptor.format_float] at hread hproblem
    have hfinite := ItemFormat.isFinite_of_read hread
    exact ⟨hfinite,
      Decimal.numericKey_le_of_below hfinite hmin (ItemFormat.below_eq_false hproblem)⟩

/-- The setting of a property with an integer. -/
lemma exists_integerSetting {min max : Int} (hsound : s.Sound)
    (hd : s.descriptor? name = some (.integer info .absent min max))
    (hsingle : info.delimiter = none) (hnew : s.stored.lookup name = none)
    (calls : List SetCall) :
    ∃ setting : Setting Int,
      Setting.Of (.integer info .absent min max) .integer (s.lastAccepted name calls) setting ∧
      (s.run calls).integer? name = setting.item? ∧
      ∀ n, setting = .value n → min ≤ n := by
  obtain ⟨setting, hsetting, hvalue, -, hadmits⟩ := exists_setting hsound hd hsingle hnew calls
  refine ⟨setting, hsetting, ?_, ?_⟩
  · unfold integer?
    rw [hvalue]
    cases setting <;> rfl
  · intro n hn
    obtain ⟨-, hproblem⟩ := hadmits n hn
    rw [Descriptor.format_integer] at hproblem
    exact ItemFormat.le_of_problem hproblem

end Numbers

/-! ## The threshold properties -/

/-- A set with the threshold properties, of which none is configured. -/
def withThresholds (owner : String) (default : Option Float) : PropertySet :=
  ⟨owner, thresholdDescriptors default, []⟩

lemma defineUpTo_thresholds (owner : String) (default : Option Float) :
    (empty owner).defineUpTo (thresholdDescriptors default) =
      (withThresholds owner default, none) := rfl

lemma sound_withThresholds (owner : String) (default : Option Float) :
    (withThresholds owner default).Sound where
  names_nodup := by
    change [minimumName, sigmaName, topScoreName].Nodup
    decide
  stored_allowed := by simp [withThresholds]

section Settings

variable (owner : String) (default : Option Float) (calls : List SetCall)

/-- The last minimum is finite and not below zero. -/
lemma exists_minimumSetting :
    ∃ minimum : Setting Float,
      Setting.Of (minimumDescriptor default) .float
        ((withThresholds owner default).lastAccepted minimumName calls) minimum ∧
      ((withThresholds owner default).run calls).float? minimumName = minimum.itemOr default ∧
      ((withThresholds owner default).run calls).isConfigured minimumName = minimum.item?.isSome ∧
      ∀ x, minimum = .value x → ∃ q, (Decimal.Double.ofFloat x).number? = some q ∧ 0 ≤ q := by
  have hd : (withThresholds owner default).descriptor? minimumName =
      some (minimumDescriptor default) := rfl
  obtain ⟨minimum, hsetting, hfloat, hconfigured, hbounds⟩ := exists_floatSetting
    (sound_withThresholds owner default) hd rfl rfl (by decide +kernel) calls
  refine ⟨minimum, hsetting, ?_, hconfigured, ?_⟩
  · rw [hfloat]
    cases default <;> rfl
  · intro x hx
    have hzero : Decimal.numericKey (Decimal.floatOfNat 0) = 0 := by decide +kernel
    obtain ⟨hfinite, hkey⟩ := hbounds x hx
    obtain ⟨q, hq, -, hsign⟩ := Decimal.exists_number hfinite
    exact ⟨q, hq, hsign.mpr (hzero ▸ hkey)⟩

/-- The last `sigma` is finite and above zero. -/
lemma exists_sigmaSetting :
    ∃ sigma : Setting Float,
      Setting.Of sigmaDescriptor .float
        ((withThresholds owner default).lastAccepted sigmaName calls) sigma ∧
      ((withThresholds owner default).run calls).float? sigmaName = sigma.item? ∧
      ((withThresholds owner default).run calls).isConfigured sigmaName = sigma.item?.isSome ∧
      ∀ x, sigma = .value x → ∃ q, (Decimal.Double.ofFloat x).number? = some q ∧ 0 < q := by
  have hd : (withThresholds owner default).descriptor? sigmaName = some sigmaDescriptor := rfl
  obtain ⟨sigma, hsetting, hfloat, hconfigured, hbounds⟩ := exists_floatSetting
    (sound_withThresholds owner default) hd rfl rfl (by decide +kernel) calls
  refine ⟨sigma, hsetting, ?_, hconfigured, ?_⟩
  · rw [hfloat]
    cases sigma <;> rfl
  · intro x hx
    have hpositive : 0 < Decimal.numericKey minPositiveDouble := by decide +kernel
    obtain ⟨hfinite, hkey⟩ := hbounds x hx
    obtain ⟨q, hq, hsign, -⟩ := Decimal.exists_number hfinite
    exact ⟨q, hq, hsign.mpr (hpositive.trans_le hkey)⟩

/-- The last limit is at least one, so that it limits as it says. -/
lemma exists_topScoreSetting :
    ∃ top : Setting Int,
      Setting.Of topScoreDescriptor .integer
        ((withThresholds owner default).lastAccepted topScoreName calls) top ∧
      (((withThresholds owner default).run calls).integer? topScoreName).map topLimit =
        top.item?.map Int.toNat ∧
      ∀ n, top = .value n → 1 ≤ n := by
  have hd : (withThresholds owner default).descriptor? topScoreName =
      some topScoreDescriptor := rfl
  obtain ⟨top, hsetting, hinteger, hbounds⟩ := exists_integerSetting
    (sound_withThresholds owner default) hd rfl rfl calls
  refine ⟨top, hsetting, ?_, hbounds⟩
  rw [hinteger]
  cases top with
  | unset => rfl
  | blank => rfl
  | value n =>
    obtain ⟨n, rfl⟩ := Int.eq_ofNat_of_zero_le (le_trans zero_le_one (hbounds n rfl))
    rfl

end Settings

/-! ## The table -/

/-- The policy that the settings of `minimum` and `sigma` give, or why there is none. -/
def settledPolicy (rule : String) (default : Option Float) :
    Setting Float → Setting Float → Except ThresholdError (Policy Float)
  | .value _, .value _ => .error (.conflicting rule)
  | _, .value deviations => .ok (.sigma deviations)
  | .value threshold, _ => .ok (.minimum threshold)
  | .unset, _ =>
    match default with
    | some threshold => .ok (.minimum threshold)
    | none => .error (.missing rule)
  | .blank, _ => .error (.missing rule)

/-- **What the threshold properties settle.**  On an empty set they can be defined.  After any calls
that follow, also calls that fail, the selector is the one of the table for what the three
properties were last configured with.  A `sigma` in the table is finite and above zero, a minimum
that was configured is finite and not below zero, and a limit is at least one. -/
theorem thresholds_settled (owner rule : String) (default : Option Float)
    (calls : List SetCall) :
    ∃ start, (empty owner).defineUpTo (thresholdDescriptors default) = (start, none) ∧
      ∃ (minimum sigma : Setting Float) (top : Setting Int),
        Setting.Of (minimumDescriptor default) .float (start.lastAccepted minimumName calls)
          minimum ∧
        Setting.Of sigmaDescriptor .float (start.lastAccepted sigmaName calls) sigma ∧
        Setting.Of topScoreDescriptor .integer (start.lastAccepted topScoreName calls) top ∧
        selectorFor rule (start.run calls) =
          (settledPolicy rule default minimum sigma).map
            (fun policy => ⟨policy, top.item?.map Int.toNat⟩) ∧
        (∀ x, sigma = .value x → ∃ q, (Decimal.Double.ofFloat x).number? = some q ∧ 0 < q) ∧
        (∀ x, minimum = .value x → ∃ q, (Decimal.Double.ofFloat x).number? = some q ∧ 0 ≤ q) ∧
        ∀ n, top = .value n → 1 ≤ n := by
  refine ⟨withThresholds owner default, defineUpTo_thresholds owner default, ?_⟩
  obtain ⟨minimum, hminimum, hminimumRead, hminimumSet, hminimumBounds⟩ :=
    exists_minimumSetting owner default calls
  obtain ⟨sigma, hsigma, hsigmaRead, hsigmaSet, hsigmaBounds⟩ :=
    exists_sigmaSetting owner default calls
  obtain ⟨top, htop, htopRead, htopBounds⟩ := exists_topScoreSetting owner default calls
  have hpolicy : policyFor rule ((withThresholds owner default).run calls) =
      settledPolicy rule default minimum sigma := by
    unfold policyFor
    rw [hminimumRead, hsigmaRead, hminimumSet, hsigmaSet]
    cases minimum <;> cases sigma <;> cases default <;> rfl
  refine ⟨minimum, sigma, top, hminimum, hsigma, htop, ?_, hsigmaBounds, hminimumBounds,
    htopBounds⟩
  unfold selectorFor
  rw [hpolicy, htopRead]

end PropertySet

end RuleMetrics
