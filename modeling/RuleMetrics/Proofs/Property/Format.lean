import RuleMetrics.Proofs.Except
import RuleMetrics.Proofs.Text.Pieces
import RuleMetrics.Proofs.Text.Trim
import RuleMetrics.Property.Item

/-!
# Values of any format

What a format needs for its values to be read back is said of single items: `Survives` asks that
the text of an item reads as the item, is not blank, and does not hold the delimiter.  From there
`readText_writeValue` goes to whole values, of any number of items, since cutting a text undoes
joining it.

`HasRead` says what all readers of values have in common.
-/

namespace RuleMetrics

variable {α : Type}

/-- The shape of a value goes with its property: a list when there is a delimiter, and at most one
item when there is none. -/
inductive PropertyValue.Fits : Option Char → PropertyValue α → Prop where
  | multi (d : Char) (items : List α) : Fits (some d) (.multi items)
  | absent : Fits none .absent
  | single (item : α) : Fits none (.single item)

namespace ItemFormat

variable {f : ItemFormat α} {delimiter : Option Char} {v : PropertyValue α}

/-! ## What was read -/

/-- A value of the right shape, of which every item was read from a text that is not blank. -/
structure HasRead (f : ItemFormat α) (delimiter : Option Char) (v : PropertyValue α) : Prop where
  fits : v.Fits delimiter
  items : ∀ item ∈ v.items, ∃ text, Text.isBlankText text = false ∧ f.read text = .ok item

lemma hasRead_of_readAll {d : Char} {texts : List String} (h : f.readAll texts = .ok v) :
    f.HasRead (some d) v := by
  obtain ⟨items, hitems, rfl⟩ := Except.map_eq_ok_iff.mp h
  refine ⟨.multi d items, ?_⟩
  intro item hitem
  obtain ⟨text, htext, hread⟩ := (List.mapM_eq_ok_iff.mp hitems).flip.exists_of_mem hitem
  rw [List.mem_filter] at htext
  exact ⟨text, by simpa using htext.2, hread⟩

lemma hasRead_of_readText {text : String} (h : f.readText delimiter text = .ok v) :
    f.HasRead delimiter v := by
  unfold readText at h
  cases delimiter with
  | some d => exact hasRead_of_readAll h
  | none =>
    cases hblank : Text.isBlankText text with
    | true =>
      simp only [hblank, if_true, Except.ok.injEq] at h
      subst h
      exact ⟨.absent, by simp [PropertyValue.items]⟩
    | false =>
      simp only [hblank, Bool.false_eq_true, if_false] at h
      obtain ⟨item, hitem, rfl⟩ := Except.map_eq_ok_iff.mp h
      refine ⟨.single item, ?_⟩
      intro other hother
      rw [List.mem_singleton.mp hother]
      exact ⟨text, hblank, hitem⟩

lemma hasRead_of_readItems {texts : List String} (h : f.readItems delimiter texts = .ok v) :
    f.HasRead delimiter v := by
  unfold readItems at h
  cases delimiter with
  | some d => exact hasRead_of_readAll h
  | none =>
    dsimp only at h
    split at h
    · cases h
      exact ⟨.absent, by simp [PropertyValue.items]⟩
    · exact hasRead_of_readText h
    · cases h

/-! ## Reading what was written -/

/-- The text of an item reads as the item, is not blank, and does not hold the delimiter. -/
structure Survives (f : ItemFormat α) (delimiter : Option Char) (item : α) : Prop where
  read_write : f.read (f.write item) = .ok item
  not_blank : Text.isBlankText (f.write item) = false
  not_mem : ∀ d ∈ delimiter, d ∉ (f.write item).toList

/-- Items that do not hold the delimiter are read from the text in which they are joined. -/
lemma readAll_piecesOf_join (f : ItemFormat α) {d : Char} {texts : List String}
    (h : ∀ t ∈ texts, d ∉ t.toList) :
    f.readAll (Text.piecesOf d (Text.join d.toString texts)) = f.readAll texts := by
  cases texts with
  | nil =>
    -- nothing joins to the empty text, whose one piece is blank
    have hpieces : Text.piecesOf d (Text.join d.toString []) = [""] := rfl
    rw [hpieces]
    rfl
  | cons text rest => rw [Text.piecesOf_join (List.cons_ne_nil text rest) h]

/-- The texts of items that survive are read as the items, and none is skipped. -/
lemma readAll_map_write {items : List α} (h : ∀ item ∈ items, f.Survives delimiter item) :
    f.readAll (items.map f.write) = .ok (.multi items) := by
  have hkept : (items.map f.write).filter (fun t => !Text.isBlankText t) = items.map f.write := by
    rw [List.filter_eq_self]
    intro text htext
    obtain ⟨item, hitem, rfl⟩ := List.mem_map.mp htext
    rw [(h item hitem).not_blank]
    rfl
  unfold readAll
  rw [hkept, Except.map_eq_ok_iff]
  refine ⟨items, ?_, rfl⟩
  rw [List.mapM_eq_ok_iff, List.forall₂_map_left_iff, List.forall₂_same]
  exact fun item hitem => (h item hitem).read_write

/-- A value is read back from its text when its items survive. -/
lemma readText_writeValue {d : Char} (hfits : v.Fits delimiter) (hd : ∀ c ∈ delimiter, c = d)
    (h : ∀ item ∈ v.items, f.Survives delimiter item) :
    f.readText delimiter (f.writeValue d v) = .ok v := by
  cases hfits with
  | multi d' items =>
    obtain rfl : d' = d := hd d' rfl
    have hcut : ∀ t ∈ items.map f.write, d' ∉ t.toList := by
      intro text htext
      obtain ⟨item, hitem, rfl⟩ := List.mem_map.mp htext
      exact (h item hitem).not_mem d' rfl
    exact (f.readAll_piecesOf_join hcut).trans (readAll_map_write h)
  | absent => rfl
  | single item =>
    have hitem := h item List.mem_cons_self
    have htext : f.writeValue d (.single item) = f.write item := Text.join_singleton _ _
    unfold readText
    rw [htext, hitem.not_blank, hitem.read_write]
    rfl

end ItemFormat

end RuleMetrics
