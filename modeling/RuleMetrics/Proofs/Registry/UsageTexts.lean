import RuleMetrics.Proofs.Registry.Freezing

/-!
# Which usages are read back

`usage_reads_back_iff` is the exact condition under which a usage of a type is read back from its
own text, with any number of dimensions: the short name is not empty, has no blanks at its ends and
no pair of brackets at the last.

A text is trimmed before its name is looked up, so a short name with blanks around it might still
lead to its type, by another name of that type.  This does not happen.  The other name would be
shorter, and a type is shown by its shortest name (`Builder.length_shortName_le`).
-/

namespace RuleMetrics

variable {calls : List Call} {r : Registry}

/-- **Reading usages back.**  Whatever calls a registry comes from, each usage of one of its types
is read back from its text exactly if the short name of the type is not empty, is trimmed and does
not end in a pair of brackets. -/
theorem usage_reads_back_iff (howns : Builder.empty.Owns calls)
    (hbuild : (Builder.empty.run calls).build = .ok r) {base : TypeId} (hbase : base.index < r.size)
    {dimensions : Nat} (hfew : dimensions ≤ TypeUsage.maxDimensions) :
    r.resolveUsage (r.usageText ⟨base, dimensions⟩) = .ok ⟨base, dimensions⟩ ↔
      r.shortName base ≠ "" ∧ Text.Trimmed (r.shortName base).toList ∧
        ¬ ['[', ']'] <:+ (r.shortName base).toList := by
  have hdistinct := (Builder.sound_empty.run howns).toDistinct
  constructor
  · intro hread
    obtain ⟨hne, hpair, hresolve⟩ := (Registry.resolveUsage_usageText_iff hfew).mp hread
    have htrim : Text.trim (r.shortName base) = r.shortName base :=
      Text.trim_eq_self_of_length_le
        (Builder.length_shortName_le hdistinct hbuild hresolve hbase)
    have htrimmed := Text.trimmed_trim (r.shortName base)
    rw [htrim] at hne hpair htrimmed
    exact ⟨hne, htrimmed, hpair⟩
  · rintro ⟨hne, htrimmed, hpair⟩
    exact Registry.resolveUsage_usageText hne ⟨htrimmed, hpair⟩
      (Builder.resolve_shortName_of_build hdistinct hbuild hbase) hfew

/-- A type with a short alias, and a type whose name looks like an array. -/
def bracketCalls : List Call :=
  [.declare "java.lang.String" none, .addAlias "Text" ⟨0⟩, .declare "T[]" none]

/-- What `bracketCalls` leave. -/
def bracketRegistry : Registry where
  types := [⟨"java.lang.String", none, []⟩, ⟨"T[]", none, []⟩]
  aliases := [("Text", ⟨0⟩)]
  shortNames := [some "Text", none]

theorem usage_reads_back_iff_of_bracketCalls :
    Builder.empty.Owns bracketCalls ∧
      (Builder.empty.run bracketCalls).build = .ok bracketRegistry ∧
      bracketRegistry.resolveUsage (bracketRegistry.usageText ⟨⟨0⟩, 255⟩) = .ok ⟨⟨0⟩, 255⟩ ∧
      bracketRegistry.resolveUsage (bracketRegistry.usageText ⟨⟨1⟩, 0⟩) ≠ .ok ⟨⟨1⟩, 0⟩ := by
  have howns : Builder.empty.Owns bracketCalls := by
    decide
  have hbuild : (Builder.empty.run bracketCalls).build = .ok bracketRegistry :=
    Builder.build_of_ascending (by decide) (by decide)
  have htrimmed : Text.Trimmed "Text".toList := by
    constructor
    · rintro c ⟨⟩
      decide
    · rintro c ⟨⟩
      decide
  refine ⟨howns, hbuild, ?_, ?_⟩
  · rw [usage_reads_back_iff howns hbuild (by decide) (by decide)]
    exact ⟨by decide, htrimmed, by decide⟩
  · rw [Ne, usage_reads_back_iff howns hbuild (by decide) (by decide)]
    rintro ⟨-, -, hpair⟩
    exact hpair (by decide)

end RuleMetrics
