import RuleMetrics.Proofs.Registry.Brackets

/-!
# Reading and writing type usages

`TypeUsage.read_eq_ok_iff` says what it takes for a usage to be read, and the rest follows from it
without a look at the reader: reading needs nothing of its table but the one name (`read_mono`),
blanks around a usage do not matter (`read_trimChars`), and a usage is written with no characters
other than those of the name, blanks and brackets (`exists_name_of_read`).

`Registry.resolveUsage_usageText` is the way back.  A name that is a base, followed by pairs of
brackets, is read as a usage of that name with as many dimensions.
-/

namespace RuleMetrics.TypeUsage

variable {lookup lookup' : String → Option TypeId} {text : String} {usage : TypeUsage}

/-! ## What is read -/

/-- A name is looked up when its brackets are few enough and something is left without them. -/
def HasName (text : String) : Prop :=
  (split text.toList).2 ≤ maxDimensions ∧ (split text.toList).1 ≠ []

/-- The look-up decides then. -/
lemma HasName.read_of_some (h : HasName text) {id : TypeId}
    (hlookup : lookup (String.ofList (split text.toList).1) = some id) :
    read lookup text = .ok ⟨id, (split text.toList).2⟩ := by
  unfold read
  simp only [if_neg (not_lt.mpr h.1), if_neg h.2, hlookup]

lemma HasName.read_of_none (h : HasName text)
    (hlookup : lookup (String.ofList (split text.toList).1) = none) :
    read lookup text = .error (.unknownType (String.ofList (split text.toList).1)) := by
  unfold read
  simp only [if_neg (not_lt.mpr h.1), if_neg h.2, hlookup]

/-- Without a name it is the format that is wrong. -/
lemma exists_fault_of_not_hasName (h : ¬ HasName text) (lookup : String → Option TypeId) :
    ∃ fault, read lookup text = .error (.invalidFormat text fault) := by
  unfold read
  by_cases hmany : maxDimensions < (split text.toList).2
  · exact ⟨.tooManyDimensions, if_pos hmany⟩
  · have hbase : (split text.toList).1 = [] := by
      by_contra hne
      exact h ⟨by omega, hne⟩
    refine ⟨.emptyTypeName, ?_⟩
    simp only [if_neg hmany, if_pos hbase]

/-- A usage is read when its name is the name of a type. -/
lemma read_eq_ok_iff :
    read lookup text = .ok usage ↔
      (split text.toList).2 ≤ maxDimensions ∧ (split text.toList).1 ≠ [] ∧
        lookup (String.ofList (split text.toList).1) = some usage.base ∧
        usage.dimensions = (split text.toList).2 := by
  by_cases hname : HasName text
  · cases hlookup : lookup (String.ofList (split text.toList).1) with
    | none => simp [hname.read_of_none hlookup]
    | some id =>
      rw [hname.read_of_some hlookup, Except.ok.injEq]
      constructor
      · rintro rfl
        exact ⟨hname.1, hname.2, rfl, rfl⟩
      · rintro ⟨-, -, hid, hdimensions⟩
        rcases usage with ⟨b, d⟩
        cases hid
        cases hdimensions
        rfl
  · obtain ⟨fault, hfault⟩ := exists_fault_of_not_hasName hname lookup
    rw [hfault]
    constructor
    · intro h
      cases h
    · rintro ⟨hfew, hbase, -⟩
      exact absurd ⟨hfew, hbase⟩ hname

/-- A name is reported as unknown when it is not in the table. -/
lemma read_eq_unknownType_iff_split {name : String} :
    read lookup text = .error (.unknownType name) ↔
      HasName text ∧ (split text.toList).1 = name.toList ∧ lookup name = none := by
  by_cases hname : HasName text
  · constructor
    · intro h
      cases hlookup : lookup (String.ofList (split text.toList).1) with
      | some id =>
        rw [hname.read_of_some hlookup] at h
        cases h
      | none =>
        rw [hname.read_of_none hlookup] at h
        cases h
        exact ⟨hname, String.toList_ofList.symm, hlookup⟩
    · rintro ⟨-, hbase, hlookup⟩
      have hnone : lookup (String.ofList (split text.toList).1) = none := by
        rw [hbase, String.ofList_toList, hlookup]
      rw [hname.read_of_none hnone, hbase, String.ofList_toList]
  · obtain ⟨fault, hfault⟩ := exists_fault_of_not_hasName hname lookup
    rw [hfault]
    constructor
    · intro h
      cases h
    · rintro ⟨hname', -⟩
      exact absurd hname' hname

/-- The text is then that name and few enough brackets. -/
lemma read_eq_unknownType_iff {name : String} :
    read lookup text = .error (.unknownType name) ↔
      name ≠ "" ∧ lookup name = none ∧ IsBase name.toList ∧
        ∃ n ≤ maxDimensions, Bracketed name.toList n (Text.trimChars text.toList) := by
  rw [read_eq_unknownType_iff_split, Ne, ← String.toList_eq_nil_iff]
  constructor
  · rintro ⟨⟨hfew, hne⟩, hbase, hlookup⟩
    have hparts := bracketed_split text.toList
    rw [hbase] at hne hparts
    exact ⟨hne, hlookup, hparts.2, _, hfew, hparts.1⟩
  · rintro ⟨hne, hlookup, hbase, n, hn, hbracketed⟩
    unfold HasName
    rw [split_eq_iff.mpr ⟨hbracketed, hbase⟩]
    exact ⟨⟨hn, hne⟩, rfl, hlookup⟩

/-- No method is looked for. -/
lemma read_ne_methodNotFound {type method : String} :
    read lookup text ≠ .error (.methodNotFound type method) := by
  by_cases hname : HasName text
  · cases hlookup : lookup (String.ofList (split text.toList).1) with
    | none => simp [hname.read_of_none hlookup]
    | some id => simp [hname.read_of_some hlookup]
  · obtain ⟨fault, hfault⟩ := exists_fault_of_not_hasName hname lookup
    rw [hfault]
    simp

/-- A table that knows more names reads every usage in the same way. -/
lemma read_mono (hmono : ∀ name id, lookup name = some id → lookup' name = some id)
    (h : read lookup text = .ok usage) : read lookup' text = .ok usage := by
  rw [read_eq_ok_iff] at h ⊢
  obtain ⟨hfew, hbase, hlookup, hdimensions⟩ := h
  exact ⟨hfew, hbase, hmono _ _ hlookup, hdimensions⟩

lemma dimensions_le_of_read (h : read lookup text = .ok usage) :
    usage.dimensions ≤ maxDimensions := by
  obtain ⟨hfew, -, -, hdimensions⟩ := read_eq_ok_iff.mp h
  omega

/-! ## Blanks around a usage -/

lemma read_trimChars (cs : List Char) (h : read lookup (String.ofList cs) = .ok usage) :
    read lookup (String.ofList (Text.trimChars cs)) = .ok usage := by
  rw [read_eq_ok_iff, String.toList_ofList] at h ⊢
  rwa [split_trimChars]

/-- Blanks alone are not read. -/
lemma trimChars_ne_nil_of_read (cs : List Char)
    (h : read lookup (String.ofList cs) = .ok usage) : Text.trimChars cs ≠ [] := by
  obtain ⟨-, hbase, -⟩ := read_eq_ok_iff.mp h
  rw [String.toList_ofList] at hbase
  intro hnil
  apply hbase
  unfold split
  rw [hnil]
  simp [stripBrackets]

/-! ## The characters of a usage -/

/-- A usage holds its name, blanks and brackets. -/
lemma mem_of_mem_split {c : Char} {cs : List Char} (h : c ∈ cs) :
    c ∈ (split cs).1 ∨ Text.isBlank c = true ∨ c = '[' ∨ c = ']' := by
  rcases Text.isBlank_or_mem_trimChars h with hblank | h
  · exact Or.inr (Or.inl hblank)
  · exact (bracketed_split cs).1.mem_cases h

/-- A usage that is read names a type, and holds nothing but that name, blanks and brackets. -/
lemma exists_name_of_read (h : read lookup text = .ok usage) :
    ∃ name, name ≠ "" ∧ lookup name = some usage.base ∧
      ∀ c ∈ text.toList, c ∈ name.toList ∨ Text.isBlank c = true ∨ c = '[' ∨ c = ']' := by
  obtain ⟨-, hbase, hlookup, -⟩ := read_eq_ok_iff.mp h
  refine ⟨String.ofList (split text.toList).1, ?_, hlookup, ?_⟩
  · rwa [Ne, ← String.toList_eq_nil_iff, String.toList_ofList]
  · intro c hc
    rw [String.toList_ofList]
    exact mem_of_mem_split hc

/-! ## Reading what was written -/

/-- Repeating a pair of brackets adds no other characters. -/
lemma mem_of_mem_flatten_replicate {c : Char} {pair : List Char} {n : Nat}
    (hc : c ∈ (List.replicate n pair).flatten) : c ∈ pair := by
  obtain ⟨copy, hcopy, hc⟩ := List.mem_flatten.mp hc
  rwa [(List.mem_replicate.mp hcopy).2] at hc

end RuleMetrics.TypeUsage

namespace RuleMetrics.Registry

/-- What is written of a usage is its name and its brackets. -/
lemma toList_usageText (r : Registry) (usage : TypeUsage) :
    (r.usageText usage).toList =
      (r.shortName usage.base).toList ++ (List.replicate usage.dimensions ['[', ']']).flatten := by
  unfold usageText
  rw [String.toList_append, String.toList_join, List.flatMap_def, List.map_replicate]
  rfl

/-- A usage is read back from its text exactly if the short name, trimmed, is a base that means its
type. -/
lemma resolveUsage_usageText_iff {r : Registry} {usage : TypeUsage}
    (hfew : usage.dimensions ≤ TypeUsage.maxDimensions) :
    r.resolveUsage (r.usageText usage) = .ok usage ↔
      Text.trim (r.shortName usage.base) ≠ "" ∧
        ¬ ['[', ']'] <:+ (Text.trim (r.shortName usage.base)).toList ∧
        r.resolve (Text.trim (r.shortName usage.base)) = some usage.base := by
  unfold resolveUsage Text.trim
  rw [TypeUsage.read_eq_ok_iff, toList_usageText, TypeUsage.split_append_replicate,
    String.toList_ofList, Ne, Ne, String.ofList_eq_empty_iff]
  constructor
  · rintro ⟨-, hbase, hresolve, hdimensions⟩
    have hpair := TypeUsage.split_pairs_eq_zero_iff.mp
      (by omega : (TypeUsage.split (r.shortName usage.base).toList).2 = 0)
    rw [TypeUsage.split_of_no_pair hpair] at hbase hresolve
    exact ⟨hbase, hpair, hresolve⟩
  · rintro ⟨hbase, hpair, hresolve⟩
    rw [TypeUsage.split_of_no_pair hpair]
    exact ⟨by omega, hbase, hresolve, by omega⟩

/-- A usage is read back from its text, if its short name is a base and means its type. -/
lemma resolveUsage_usageText {r : Registry} {usage : TypeUsage}
    (hne : r.shortName usage.base ≠ "") (hbase : TypeUsage.IsBase (r.shortName usage.base).toList)
    (hresolve : r.resolve (r.shortName usage.base) = some usage.base)
    (hfew : usage.dimensions ≤ TypeUsage.maxDimensions) :
    r.resolveUsage (r.usageText usage) = .ok usage := by
  rw [resolveUsage_usageText_iff hfew, Text.trim_eq_self hbase.trimmed]
  exact ⟨hne, hbase.no_pair, hresolve⟩

end RuleMetrics.Registry
