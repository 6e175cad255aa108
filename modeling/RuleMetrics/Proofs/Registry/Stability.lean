import RuleMetrics.Proofs.Registry.Catalog
import RuleMetrics.Proofs.Registry.Consistency

/-!
# Names keep their meaning

While a registry is built, aliases are asked before qualified names, so an alias that comes late
could take over a name that was used before as the name of a parent or of a parameter.  A run that
does so is rejected in the end.  In a run that is not rejected, what a name or a usage of a type
means at any point is what it means in the finished registry (`meaning_kept`), and so the parents
that a catalog names are the parents that its registry has.
-/

namespace RuleMetrics

open Builder

variable {b b' : Builder} {r : Registry}

/-- What a name means in the tables of a builder it means in every registry that the tables grow
into. -/
lemma resolve_of_lookup (hsound : b'.Sound) (hextends : b.Extends b') (hbuild : b'.build = .ok r)
    {name : String} {id : TypeId} (h : b.lookup name = some id) : r.resolve name = some id := by
  rw [resolve_of_build hsound.toDistinct hbuild]
  exact hextends.lookup (unshadowed_of_build hbuild) h

/-- The parent that an entry names is the parent of its type in the registry. -/
lemma Catalog.Recorded.parent_resolves {c : Catalog} (h : c.Recorded b) (hbuild : b.build = .ok r)
    {i : Nat} {entry : CatalogEntry} (hentry : c.entries[i]? = some entry) :
    ∃ t, r.types[i]? = some t ∧ t.qualifiedName = entry.name ∧
      entry.parent.map r.resolve = t.parent.map some := by
  obtain ⟨t, ht, hrecorded⟩ := h.types i entry hentry
  refine ⟨t, ?_, hrecorded.name, ?_⟩
  · rwa [types_of_build hbuild]
  · rw [resolve_of_build h.reachable.sound.toDistinct hbuild]
    exact hrecorded.parent

/-- **Names keep their meaning.**  Take any calls on a fresh builder that end in a registry, and
stop after any of them: a name that means a type by then, or a text that is read as a usage, means
the same in the registry.  In the registry of a catalog the type of each entry has the parent that
the text of the entry means there. -/
theorem meaning_kept :
    (∀ (calls later : List Call) (r : Registry), Builder.empty.Owns (calls ++ later) →
      (Builder.empty.run (calls ++ later)).build = .ok r →
      (∀ name id, (Builder.empty.run calls).lookup name = some id → r.resolve name = some id) ∧
      ∀ text usage, (Builder.empty.run calls).resolveUsage text = .ok usage →
        r.resolveUsage text = .ok usage) ∧
    ∀ (c : Catalog) (r : Registry), c.build = .ok r →
      ∀ (i : Nat) (entry : CatalogEntry), c.entries[i]? = some entry →
        ∃ t, r.types[i]? = some t ∧ t.qualifiedName = entry.name ∧
          entry.parent.map r.resolve = t.parent.map some := by
  constructor
  · intro calls later r howns hbuild
    have hsound := sound_empty.run howns
    have hextends : (Builder.empty.run calls).Extends (Builder.empty.run (calls ++ later)) := by
      rw [run_append]
      exact extends_run _ later
    have hnames : ∀ name id, (Builder.empty.run calls).lookup name = some id →
        r.resolve name = some id :=
      fun _ _ h => resolve_of_lookup hsound hextends hbuild h
    exact ⟨hnames, fun _ _ h => TypeUsage.read_mono hnames h⟩
  · intro c r hbuild i entry hentry
    obtain ⟨b, hrecorded, hfrozen⟩ := Catalog.exists_builder hbuild
    exact hrecorded.parent_resolves hfrozen hentry

/-- After six of its calls `mixedCalls` has two of its three types, and `Text` is known. -/
theorem meaning_kept_of_mixedCalls :
    (Builder.empty.run (mixedCalls.take 6)).lookup "Text" = some ⟨1⟩ ∧
      mixedRegistry.resolve "Text" = some ⟨1⟩ ∧
      mixedRegistry.resolveUsage " Object [][]" = .ok ⟨⟨0⟩, 2⟩ ∧
      ∃ t, smallRegistry.types[1]? = some t ∧ t.qualifiedName = "java.lang.String" ∧
        (some "Object").map smallRegistry.resolve = t.parent.map some := by
  have hname : (Builder.empty.run (mixedCalls.take 6)).lookup "Text" = some ⟨1⟩ := by
    decide
  have husage : (Builder.empty.run (mixedCalls.take 6)).resolveUsage " Object [][]" =
      .ok ⟨⟨0⟩, 2⟩ := by
    decide +kernel
  obtain ⟨hnames, husages⟩ := meaning_kept.1 (mixedCalls.take 6) (mixedCalls.drop 6) mixedRegistry
    owns_mixedCalls build_mixedCalls
  refine ⟨hname, hnames _ _ hname, husages _ _ husage, ?_⟩
  exact meaning_kept.2 smallCatalog smallRegistry build_smallCatalog 1 _ rfl

end RuleMetrics
