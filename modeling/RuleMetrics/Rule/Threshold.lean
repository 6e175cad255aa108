import RuleMetrics.Property.Set
import RuleMetrics.Score.Selector

/-!
# Threshold properties

Every rule that scores nodes has three properties.  `minimum` flags scores from a fixed value on,
`sigma` flags scores that stand out statistically, and `topscore` limits the number of flagged
scores.  A configured `sigma` takes the place of the minimum, and it is an error to configure
both.
-/

namespace RuleMetrics

/-- The properties' names. -/
def minimumName : String := "minimum"

@[inherit_doc minimumName]
def sigmaName : String := "sigma"

@[inherit_doc minimumName]
def topScoreName : String := "topscore"

/-- The largest double. -/
def maxDouble : Float := Float.ofBits 0x7FEFFFFFFFFFFFFF

/-- The smallest positive double of full precision. -/
def minPositiveDouble : Float := Float.ofBits 0x0010000000000000

/-- The property `minimum`, with its default if it has one. -/
def minimumDescriptor (default : Option Float) : Descriptor :=
  .float ⟨minimumName, "Report scores at or above this value", 1.0, none⟩
    (default.elim .absent .single) (Decimal.floatOfNat 0) maxDouble

/-- The property `sigma`. -/
def sigmaDescriptor : Descriptor :=
  .float
    ⟨sigmaName, "Report scores more than this many standard deviations above the mean", 2.0, none⟩
    .absent minPositiveDouble maxDouble

/-- The property `topscore`. -/
def topScoreDescriptor : Descriptor :=
  .integer ⟨topScoreName, "Report at most this many of the highest scores", 3.0, none⟩
    .absent 1 Decimal.maxInt64

/-- The threshold properties in the order of their definition. -/
def thresholdDescriptors (defaultMinimum : Option Float) : List Descriptor :=
  [minimumDescriptor defaultMinimum, sigmaDescriptor, topScoreDescriptor]

/-- Add descriptors one after the other, up to the first whose name is taken: the set with those
that were added, and the error if there was one. -/
def PropertySet.defineUpTo (s : PropertySet) :
    List Descriptor → PropertySet × Option DuplicateProperty
  | [] => (s, none)
  | d :: rest =>
    match s.define d with
    | .ok s => s.defineUpTo rest
    | .error e => (s, some e)

/-! ## The selector of a property set -/

/-- Why a rule has no selector. -/
inductive ThresholdError where
  | conflicting (rule : String)
  | missing (rule : String)
deriving Repr, DecidableEq

/-- The wording of an error. -/
def ThresholdError.message : ThresholdError → String
  | conflicting rule => "rule " ++ Text.quote rule ++ " configures both 'minimum' and 'sigma'"
  | missing rule =>
    "rule " ++ Text.quote rule ++ " has neither a 'minimum' nor a 'sigma' threshold"

/-- The largest limit on the number of points. -/
def maxTop : Nat := 0xFFFFFFFFFFFFFFFF

/-- A limit that a property gives; one that is no count of points limits nothing. -/
def topLimit (n : Int) : Nat :=
  match n with
  | .ofNat n => n
  | .negSucc _ => maxTop

/-- The policy that the threshold properties describe. -/
def policyFor (rule : String) (s : PropertySet) : Except ThresholdError (Policy Float) :=
  if s.isConfigured sigmaName then
    if s.isConfigured minimumName then .error (.conflicting rule)
    else
      match s.float? sigmaName with
      | some deviations => .ok (.sigma deviations)
      | none => .error (.missing rule)
  else
    match s.float? minimumName with
    | some threshold => .ok (.minimum threshold)
    | none => .error (.missing rule)

/-- The selector that the threshold properties describe. -/
def selectorFor (rule : String) (s : PropertySet) : Except ThresholdError (Selector Float) :=
  (policyFor rule s).map fun policy => ⟨policy, (s.integer? topScoreName).map topLimit⟩

end RuleMetrics
