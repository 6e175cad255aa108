import Mathlib.Data.String.Basic
import RuleMetrics.Command.Check
import RuleMetrics.Proofs.Entries
import RuleMetrics.Proofs.Sorting
import RuleMetrics.Proofs.Text.Pieces

/-!
# Which files are collected

Collecting goes down from a directory, passes over hidden directories and those of build output, and
takes the files with the right extensions on the way.  What it takes can be said without going down
(`IsCollected`): a file at some place, by its name and by the names of the directories that the
place leads through.  The directory at the start is not among these, and the name of the file counts
for its extension only.

Names are distinct in every directory of a file system (`Distinct`).  So a place leads to one thing,
and no file is taken twice.  The places are then put in order, name by name.
-/

namespace RuleMetrics

variable {name : String} {place : List String} {extensions : List String}
  {entries : List (String × FileTree)} {t : FileTree}

/-! ## Names -/

/-- The extension of a file name: what follows its last dot, if something stands before that dot;
otherwise nothing. -/
inductive HasExtension (name : String) : String → Prop where
  | dotted {stem extension : List Char} (hname : name.toList = stem ++ '.' :: extension)
      (hstem : stem ≠ []) (hlast : '.' ∉ extension) : HasExtension name (String.ofList extension)
  | plain (hname : '.' ∉ name.toList.drop 1) : HasExtension name ""

/-- The last dot of a name is the first from its end. -/
lemma toList_of_cut_reverse {extension stem : List Char}
    (h : Text.cut '.' name.toList.reverse = some (extension, stem)) :
    name.toList = stem.reverse ++ '.' :: extension.reverse ∧ '.' ∉ extension.reverse := by
  obtain ⟨hreverse, hlast⟩ := Text.eq_append_of_cut h
  refine ⟨?_, by simpa using hlast⟩
  rw [← List.reverse_reverse name.toList, hreverse]
  simp

lemma hasExtension_extensionOf (name : String) :
    HasExtension name (FilePath.extensionOf name) := by
  unfold FilePath.extensionOf
  dsimp only
  split
  next extension hcut =>
    obtain ⟨hname, hlast⟩ := toList_of_cut_reverse hcut
    refine .plain ?_
    rw [hname]
    exact hlast
  next extension stem hstem hcut =>
    obtain ⟨hname, hlast⟩ := toList_of_cut_reverse hcut
    exact .dotted hname (by simpa using hstem) hlast
  next hcut =>
    refine .plain fun hdot => ?_
    exact Text.cut_eq_none_iff.mp hcut (List.mem_reverse.mpr (List.mem_of_mem_drop hdot))

/-- A name has one extension. -/
lemma HasExtension.eq_extensionOf {extension : String} (h : HasExtension name extension) :
    extension = FilePath.extensionOf name := by
  unfold FilePath.extensionOf
  dsimp only
  cases h with
  | @dotted stem extension hname hstem hlast =>
    have hcut : Text.cut '.' name.toList.reverse = some (extension.reverse, stem.reverse) := by
      rw [hname, List.reverse_append, List.reverse_cons, List.append_assoc]
      exact Text.cut_append_cons (by simpa using hlast) _
    obtain ⟨last, rest, hrest⟩ := List.exists_cons_of_ne_nil (List.reverse_ne_nil_iff.mpr hstem)
    rw [hcut, hrest]
    simp
  | plain hname =>
    split
    · rfl
    next extension stem hstem hcut =>
      obtain ⟨hsplit, -⟩ := toList_of_cut_reverse hcut
      obtain ⟨first, rest, hrest⟩ :=
        List.exists_cons_of_ne_nil (List.reverse_ne_nil_iff.mpr hstem)
      rw [hsplit, hrest] at hname
      exact absurd (List.mem_append_right rest List.mem_cons_self) hname
    · rfl

lemma contains_extensionOf_iff :
    extensions.contains (FilePath.extensionOf name) = true ↔
      ∃ extension ∈ extensions, HasExtension name extension := by
  rw [List.contains_iff_mem]
  constructor
  · intro hmem
    exact ⟨_, hmem, hasExtension_extensionOf name⟩
  · rintro ⟨extension, hmem, h⟩
    rwa [← h.eq_extensionOf]

/-- A directory of this name is passed over. -/
def IsSkipped (name : String) : Prop :=
  (∃ rest, name.toList = '.' :: rest) ∨ name = "target" ∨ name = "build" ∨ name = "node_modules"

lemma isPassedOver_iff : FileTree.isPassedOver name = true ↔ IsSkipped name := by
  unfold FileTree.isPassedOver IsSkipped
  rw [Bool.or_eq_true, beq_iff_eq, List.head?_eq_some_iff, List.contains_iff_mem]
  simp only [List.mem_cons, List.not_mem_nil, or_false]

/-! ## Places -/

namespace FileTree

/-- No directory has two entries of one name. -/
def Distinct (t : FileTree) : Prop :=
  ∀ place entries, t.at? place = some (directory entries) → (entries.map Prod.fst).Nodup

/-- Under distinct names each entry is found by its own. -/
lemma at?_cons_eq_some_iff (hnodup : (entries.map Prod.fst).Nodup) {inner : FileTree} :
    (directory entries).at? (name :: place) = some inner ↔
      ∃ t, (name, t) ∈ entries ∧ t.at? place = some inner := by
  rw [at?]
  constructor
  · intro h
    split at h
    · next t hentry => exact ⟨t, (lookup_eq_some_iff_mem hnodup).mp hentry, h⟩
    · cases h
  · rintro ⟨t, hmem, h⟩
    have hentry : FileTree.entry? (directory entries) name = some t :=
      (lookup_eq_some_iff_mem hnodup).mpr hmem
    rw [hentry]
    exact h

lemma at?_file (source : Source) (hplace : place ≠ []) : (file source).at? place = none := by
  cases place with
  | nil => exact absurd rfl hplace
  | cons name place => rfl

lemma at?_append (t : FileTree) (place below : List String) :
    t.at? (place ++ below) = (t.at? place).bind fun inner => inner.at? below := by
  induction place generalizing t with
  | nil => rfl
  | cons name place ih =>
    rw [List.cons_append, at?, at?]
    cases t.entry? name with
    | none => rfl
    | some inner => exact ih inner

lemma distinct_file (source : Source) : (file source).Distinct := by
  intro place entries h
  cases place with
  | nil => cases h
  | cons name place => cases h

lemma distinct_directory_iff : (directory entries).Distinct ↔
    (entries.map Prod.fst).Nodup ∧ ∀ e ∈ entries, e.2.Distinct := by
  constructor
  · intro h
    have hnodup : (entries.map Prod.fst).Nodup := h [] entries rfl
    refine ⟨hnodup, ?_⟩
    rintro ⟨name, t⟩ hmem place inner hinner
    exact h (name :: place) inner ((at?_cons_eq_some_iff hnodup).mpr ⟨t, hmem, hinner⟩)
  · rintro ⟨hnodup, hbelow⟩ place inner hinner
    cases place with
    | nil =>
      obtain rfl := directory.inj (Option.some.inj hinner)
      exact hnodup
    | cons name place =>
      obtain ⟨t, hmem, hinner⟩ := (at?_cons_eq_some_iff hnodup).mp hinner
      exact hbelow _ hmem place inner hinner

lemma Distinct.nodup (h : (directory entries).Distinct) : (entries.map Prod.fst).Nodup :=
  (distinct_directory_iff.mp h).1

lemma Distinct.of_mem (h : (directory entries).Distinct) (hmem : (name, t) ∈ entries) :
    t.Distinct :=
  (distinct_directory_iff.mp h).2 _ hmem

/-- Whatever stands in a tree with distinct names has distinct names. -/
lemma Distinct.of_at? {inner : FileTree} (h : t.Distinct) (hinner : t.at? place = some inner) :
    inner.Distinct := by
  intro below entries hbelow
  refine h (place ++ below) entries ?_
  rw [at?_append, hinner, Option.bind_some, hbelow]

/-! ## Collected files -/

/-- A file that is to be collected: its name has one of the extensions, and no directory on the way
down to it is passed over. -/
inductive IsCollected (t : FileTree) (extensions : List String) : List String → Prop where
  | mk (directories : List String) (name : String) {extension : String} {source : Source}
      (hfile : t.at? (directories ++ [name]) = some (file source))
      (hextension : HasExtension name extension) (hmem : extension ∈ extensions)
      (hkept : ∀ d ∈ directories, ¬ IsSkipped d) : IsCollected t extensions (directories ++ [name])

lemma not_isCollected_nil : ¬ IsCollected t extensions [] := by
  intro h
  generalize hplace : ([] : List String) = place at h
  cases h with
  | mk => exact absurd hplace (by simp)

/-- The first step on the way to a file that is to be collected. -/
lemma isCollected_cons_iff (hnodup : (entries.map Prod.fst).Nodup) :
    IsCollected (directory entries) extensions (name :: place) ↔
      (∃ source, (name, file source) ∈ entries ∧ place = [] ∧
        ∃ extension ∈ extensions, HasExtension name extension) ∨
      ∃ inner, (name, directory inner) ∈ entries ∧ ¬ IsSkipped name ∧
        IsCollected (directory inner) extensions place := by
  constructor
  · intro h
    generalize hwhole : name :: place = whole at h
    cases h with
    | @mk directories last extension source hfile hextension hmem hkept =>
      cases directories with
      | nil =>
        obtain ⟨rfl, rfl⟩ := List.cons.inj hwhole
        obtain ⟨t, hentry, ht⟩ := (at?_cons_eq_some_iff hnodup).mp hfile
        obtain rfl := Option.some.inj ht
        exact Or.inl ⟨source, hentry, rfl, extension, hmem, hextension⟩
      | cons first directories =>
        obtain ⟨rfl, rfl⟩ := List.cons.inj hwhole
        obtain ⟨t, hentry, ht⟩ := (at?_cons_eq_some_iff hnodup).mp hfile
        rw [List.forall_mem_cons] at hkept
        cases t with
        | file other =>
          rw [at?_file other (by simp)] at ht
          cases ht
        | directory inner =>
          exact Or.inr ⟨inner, hentry, hkept.1,
            .mk directories last ht hextension hmem hkept.2⟩
  · rintro (⟨source, hmem, rfl, extension, hextensions, hextension⟩ | ⟨inner, hmem, hname, h⟩)
    · have hfile : (directory entries).at? [name] = some (file source) :=
        (at?_cons_eq_some_iff hnodup).mpr ⟨_, hmem, rfl⟩
      exact .mk [] name hfile hextension hextensions (List.forall_mem_nil _)
    · cases h with
      | @mk directories last extension source hfile hextension hextensions hkept =>
        have hbelow : (directory entries).at? (name :: (directories ++ [last])) =
            some (file source) :=
          (at?_cons_eq_some_iff hnodup).mpr ⟨_, hmem, hfile⟩
        exact .mk (name :: directories) last hbelow hextension hextensions
          (List.forall_mem_cons.mpr ⟨hname, hkept⟩)

/-! ## Collecting -/

/-- The files that are collected from one entry of a directory. -/
def collectedFrom (extensions : List String) : String × FileTree → List (List String)
  | (name, file _) => if extensions.contains (FilePath.extensionOf name) then [[name]] else []
  | (name, directory inner) =>
    if isPassedOver name then []
    else (collectEntries extensions inner).map fun place => name :: place

lemma collectEntries_eq_flatMap (extensions : List String) (entries : List (String × FileTree)) :
    collectEntries extensions entries = entries.flatMap (collectedFrom extensions) := by
  fun_induction collectEntries extensions entries with
  | case1 => rfl
  | case2 name source rest below hextension ih =>
    rw [List.flatMap_cons, collectedFrom, if_pos hextension, ← ih]
    rfl
  | case3 name source rest below hextension ih =>
    rw [List.flatMap_cons, collectedFrom, if_neg hextension, ← ih]
    rfl
  | case4 name inner rest below hname ih =>
    rw [List.flatMap_cons, collectedFrom, if_pos hname, ← ih]
    rfl
  | case5 name inner rest below hname ih _ =>
    rw [List.flatMap_cons, collectedFrom, if_neg hname, ← ih]

/-- What is collected from an entry starts with its name. -/
lemma mem_collectedFrom_iff : place ∈ collectedFrom extensions (name, t) ↔
    ∃ below, place = name :: below ∧
      match t with
      | file _ => below = [] ∧ extensions.contains (FilePath.extensionOf name) = true
      | directory inner => isPassedOver name = false ∧ below ∈ collectEntries extensions inner := by
  cases t with
  | file source =>
    rw [collectedFrom]
    split <;> simp_all
  | directory inner =>
    rw [collectedFrom]
    split
    next hname => simp [hname]
    next hname =>
      rw [Bool.not_eq_true] at hname
      simp only [List.mem_map, hname, true_and]
      exact exists_congr fun below => and_comm.trans (and_congr_left' eq_comm)

lemma nil_notMem_collectEntries (extensions : List String) (entries : List (String × FileTree)) :
    [] ∉ collectEntries extensions entries := by
  rw [collectEntries_eq_flatMap, List.mem_flatMap]
  rintro ⟨⟨name, t⟩, -, hmem⟩
  obtain ⟨below, hplace, -⟩ := mem_collectedFrom_iff.mp hmem
  cases hplace

/-- The first step on the way to a file that is collected. -/
lemma cons_mem_collectEntries_iff :
    name :: place ∈ collectEntries extensions entries ↔
      (∃ source, (name, file source) ∈ entries ∧ place = [] ∧
        extensions.contains (FilePath.extensionOf name) = true) ∨
      ∃ inner, (name, directory inner) ∈ entries ∧ isPassedOver name = false ∧
        place ∈ collectEntries extensions inner := by
  rw [collectEntries_eq_flatMap, List.mem_flatMap]
  constructor
  · rintro ⟨⟨first, t⟩, hentry, hmem⟩
    obtain ⟨below, hplace, hbelow⟩ := mem_collectedFrom_iff.mp hmem
    obtain ⟨rfl, rfl⟩ := List.cons.inj hplace
    cases t with
    | file source => exact Or.inl ⟨source, hentry, hbelow⟩
    | directory inner => exact Or.inr ⟨inner, hentry, hbelow⟩
  · rintro (⟨source, hentry, hbelow⟩ | ⟨inner, hentry, hbelow⟩)
    · exact ⟨_, hentry, mem_collectedFrom_iff.mpr ⟨place, rfl, hbelow⟩⟩
    · exact ⟨_, hentry, mem_collectedFrom_iff.mpr ⟨place, rfl, hbelow⟩⟩

/-- A directory gives the files that are to be collected. -/
lemma mem_collectEntries_iff (h : (directory entries).Distinct) :
    place ∈ collectEntries extensions entries ↔
      IsCollected (directory entries) extensions place := by
  induction place generalizing entries with
  | nil =>
    exact iff_of_false (nil_notMem_collectEntries extensions entries) not_isCollected_nil
  | cons name place ih =>
    rw [cons_mem_collectEntries_iff, isCollected_cons_iff h.nodup]
    refine or_congr ?_ ?_
    · simp only [contains_extensionOf_iff]
    · refine exists_congr fun inner => and_congr_right fun hmem => ?_
      rw [← Bool.not_eq_true, isPassedOver_iff, ih (h.of_mem hmem)]

/-! ### Each once -/

/-- To show something of all trees it is enough to go up from the entries of a directory. -/
@[elab_as_elim]
theorem induction_entries {motive : FileTree → Prop} (file : ∀ source, motive (file source))
    (directory : ∀ entries, (∀ e ∈ entries, motive e.2) → motive (directory entries)) :
    ∀ t, motive t
  | .file source => file source
  | .directory entries => directory entries fun e _he => induction_entries file directory e.2
termination_by t => t
decreasing_by
  have hlt := List.sizeOf_lt_of_mem _he
  obtain ⟨name, t⟩ := e
  simp only [Prod.mk.sizeOf_spec, FileTree.directory.sizeOf_spec] at hlt ⊢
  omega

/-- Entries of distinct names have no file in common. -/
lemma nodup_collectEntries_of_forall (hnodup : (entries.map Prod.fst).Nodup)
    (heach : ∀ e ∈ entries, (collectedFrom extensions e).Nodup) :
    (collectEntries extensions entries).Nodup := by
  rw [collectEntries_eq_flatMap, List.nodup_flatMap]
  refine ⟨heach, ?_⟩
  rw [List.Nodup, List.pairwise_map] at hnodup
  refine hnodup.imp ?_
  rintro ⟨name, t⟩ ⟨name', t'⟩ hne place hmem hmem'
  obtain ⟨below, rfl, -⟩ := mem_collectedFrom_iff.mp hmem
  obtain ⟨below', hplace, -⟩ := mem_collectedFrom_iff.mp hmem'
  exact hne (List.cons.inj hplace).1

lemma nodup_collectedFrom (h : t.Distinct) (name : String) :
    (collectedFrom extensions (name, t)).Nodup := by
  induction t using induction_entries generalizing name with
  | file source =>
    rw [collectedFrom]
    split
    · exact List.nodup_singleton _
    · exact List.nodup_nil
  | directory entries ih =>
    rw [collectedFrom]
    split
    · exact List.nodup_nil
    · refine List.Nodup.map List.cons_injective (nodup_collectEntries_of_forall h.nodup ?_)
      intro e he
      exact ih e he (h.of_mem he) e.1

/-! ### In order -/

/-- Places are in lexicographic order of their names. -/
lemma comesBefore_iff {a b : List String} :
    comesBefore a b = true ↔ a = b ∨ List.Lex (· < ·) a b := by
  fun_induction comesBefore a b with
  | case1 b => cases b <;> simp
  | case2 name a => simp
  | case3 name a name' b ih =>
    rw [List.cons_lex_cons_iff, Bool.or_eq_true, Bool.and_eq_true, decide_eq_true_iff,
      beq_iff_eq, ih, List.cons.injEq, and_or_left]
    exact or_left_comm

lemma comesBefore_eq : comesBefore = fun a b => decide (a ≤ b) := by
  funext a b
  rw [Bool.eq_iff_iff, comesBefore_iff, decide_eq_true_iff, le_iff_eq_or_lt]
  rfl

lemma mem_collectFiles_iff (h : (directory entries).Distinct) :
    place ∈ (directory entries).collectFiles extensions ↔
      IsCollected (directory entries) extensions place := by
  unfold collectFiles
  rw [List.mem_mergeSort, mem_collectEntries_iff h]

lemma ascending_collectFiles (h : (directory entries).Distinct) (extensions : List String) :
    ((directory entries).collectFiles extensions).Pairwise (List.Lex (· < ·)) := by
  have hnodup : (collectEntries extensions entries).Nodup := by
    refine nodup_collectEntries_of_forall h.nodup ?_
    intro e he
    exact nodup_collectedFrom (h.of_mem he) e.1
  rw [← List.map_id (collectEntries extensions entries)] at hnodup
  unfold collectFiles
  rw [comesBefore_eq]
  exact List.strictlyAscending_mergeSort_key hnodup

end FileTree

/-! ## Files to check -/

open FileTree

/-- The files to check at a directory, by their places in the file system. -/
lemma exists_filesAt {fs : FileSystem} (h : fs.root.Distinct)
    (hplace : fs.root.at? place = some (.directory entries)) (rules : List ConfiguredRule) :
    ∃ files : List (List String),
      Check.filesAt fs rules place = files.map FileSystem.absolutePath ∧
      files.Pairwise (List.Lex (· < ·)) ∧ ∀ file, file ∈ files ↔ ∃ below, file = place ++ below ∧
        IsCollected (.directory entries) (rules.flatMap fun rule => rule.rule.extensions)
          below := by
  have hinner := h.of_at? hplace
  let extensions := rules.flatMap fun rule => rule.rule.extensions
  refine ⟨((FileTree.directory entries).collectFiles extensions).map (place ++ ·), ?_, ?_, ?_⟩
  · unfold Check.filesAt
    rw [hplace, List.map_map]
    rfl
  · rw [List.pairwise_map]
    exact (ascending_collectFiles hinner _).imp fun hlt => hlt.append_left _ place
  · intro file
    simp only [List.mem_map, mem_collectFiles_iff hinner]
    exact exists_congr fun below => and_comm.trans (and_congr_left' eq_comm)

/-- **Collecting is exact.**  From a directory in which names are distinct are collected, in
lexicographic order and each once, the files that have one of the extensions and that no directory
below the start which is passed over leads to.  So are the files to check at a directory of a file
system, whatever its own name and those of the directories that it is in. -/
theorem files_collected_exactly :
    (∀ (entries : List (String × FileTree)) (extensions : List String),
      (FileTree.directory entries).Distinct →
      ((FileTree.directory entries).collectFiles extensions).Pairwise (List.Lex (· < ·)) ∧
      ∀ place, place ∈ (FileTree.directory entries).collectFiles extensions ↔
        IsCollected (.directory entries) extensions place) ∧
    ∀ (fs : FileSystem) (rules : List ConfiguredRule) (place : List String)
      (entries : List (String × FileTree)), fs.root.Distinct →
      fs.root.at? place = some (.directory entries) →
      ∃ files : List (List String),
        Check.filesAt fs rules place = files.map FileSystem.absolutePath ∧
        files.Pairwise (List.Lex (· < ·)) ∧ ∀ file, file ∈ files ↔ ∃ below, file = place ++ below ∧
          IsCollected (.directory entries) (rules.flatMap fun rule => rule.rule.extensions)
            below := by
  refine ⟨?_, ?_⟩
  · intro entries extensions h
    exact ⟨ascending_collectFiles h extensions, fun place => mem_collectFiles_iff h⟩
  · intro fs rules place entries h hplace
    exact exists_filesAt h hplace rules

/-- A file in a directory of build output, a hidden file in another directory, and a file of another
extension. -/
def sampleEntries : List (String × FileTree) :=
  [("target", .directory [("B.java", .file ⟨.empty, []⟩)]),
    ("sub", .directory [(".C.java", .file ⟨.empty, []⟩)]), ("notes.md", .file ⟨.empty, []⟩)]

/-- The hidden file is to be checked, also from a hidden directory. -/
theorem files_collected_exactly_of_sampleEntries :
    let fs : FileSystem := ⟨.directory [(".git", .directory sampleEntries)], []⟩
    let rules : List ConfiguredRule :=
      [⟨ConstructorSize.rule ⟨[], [], []⟩, ⟨.minimum 1, none⟩, .standard⟩]
    (FileTree.directory sampleEntries).Distinct ∧ fs.root.Distinct ∧
      ["target", "B.java"] ∉ (FileTree.directory sampleEntries).collectFiles ["java"] ∧
      ∃ files : List (List String),
        Check.filesAt fs rules [".git"] = files.map FileSystem.absolutePath ∧
        [".git", "sub", ".C.java"] ∈ files := by
  intro fs rules
  have hsample : (FileTree.directory sampleEntries).Distinct := by
    simp [sampleEntries, distinct_directory_iff, distinct_file]
  have hroot : fs.root.Distinct := by
    simpa [fs, distinct_directory_iff] using distinct_directory_iff.mp hsample
  refine ⟨hsample, hroot, ?_, ?_⟩
  · rw [(files_collected_exactly.1 sampleEntries ["java"] hsample).2,
      isCollected_cons_iff hsample.nodup]
    simp [sampleEntries, IsSkipped]
  · obtain ⟨files, hfiles, -, hmem⟩ :=
      files_collected_exactly.2 fs rules [".git"] sampleEntries hroot rfl
    refine ⟨files, hfiles, (hmem _).mpr ⟨["sub", ".C.java"], rfl, ?_⟩⟩
    have hextension : HasExtension ".C.java" "java" := hasExtension_extensionOf ".C.java"
    have hkept : ∀ d ∈ ["sub"], ¬ IsSkipped d := by
      simp only [List.forall_mem_singleton, ← isPassedOver_iff]
      decide
    exact .mk ["sub"] ".C.java" rfl hextension (by decide) hkept

end RuleMetrics
