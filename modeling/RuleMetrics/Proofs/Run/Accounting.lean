import RuleMetrics.Proofs.Run.Schedule

/-!
# What a run makes of each file

A file counts if it is not excluded and some rule handles its extension.  A file that counts is
either scanned, with all violations that its rules find, or skipped, if it cannot be read or one of
its rules fails on it (`Runner.outcome_eq`).  A rule may fail on a file when others have found
violations there already; these are dropped with the file.

The three places that the workers write to agree with that in the end, in whatever order they are
written to: `Runner.files_accounted` says what the counter, the list of skipped files and the
violations of a run are, and that all other files might as well not have been listed.
-/

namespace RuleMetrics.Runner

variable {r : Runner} {rules : List ConfiguredRule} {read : FilePath → Except FileError Source}
  {path : FilePath}

/-! ## The files that count -/

/-- The rules that handle the extension of a file. -/
def handling (rules : List ConfiguredRule) (path : FilePath) : List ConfiguredRule :=
  rules.filter fun rule => rule.rule.handles path.fileExtension

/-- Whether a file counts: it is not excluded, and some rule handles its extension. -/
def counts (r : Runner) (rules : List ConfiguredRule) (path : FilePath) : Bool :=
  !r.excludes path && rules.any fun rule => rule.rule.handles path.fileExtension

/-- Whether a file cannot be read, or a rule that handles it fails to measure it. -/
def fails (rules : List ConfiguredRule) (read : FilePath → Except FileError Source)
    (path : FilePath) : Bool :=
  match read path with
  | .error _ => true
  | .ok source => (handling rules path).any fun rule => !(rule.measure source).isOk

/-- All violations that some rule finds in a file, whether or not other rules fail on it. -/
def found (r : Runner) (rules : List ConfiguredRule) (read : FilePath → Except FileError Source)
    (path : FilePath) : List ReportedViolation :=
  match read path with
  | .error _ => []
  | .ok source => (handling rules path).flatMap fun rule =>
      (violationsOf rule (r.displayPath path) source).toOption.getD []

lemma counts_iff : r.counts rules path = true ↔
    r.excludes path = false ∧ handling rules path ≠ [] := by
  simp [counts, handling]

lemma isOk_violationsOf (rule : ConfiguredRule) (file : String) (source : Source) :
    (violationsOf rule file source).isOk = (rule.measure source).isOk := by
  unfold violationsOf
  cases rule.measure source <;> rfl

/-- Rules that find something one after the other, without a failure. -/
lemma mapM_violationsOf {applicable : List ConfiguredRule} {file : String} {source : Source}
    (h : (applicable.any fun rule => !(rule.measure source).isOk) = false) :
    (applicable.mapM fun rule => violationsOf rule file source) =
      .ok (applicable.map fun rule => (violationsOf rule file source).toOption.getD []) := by
  rw [List.mapM_eq_ok_iff, List.forall₂_map_right_iff, List.forall₂_same]
  intro rule hrule
  have hok := List.any_eq_false.mp h rule hrule
  rw [← isOk_violationsOf rule file] at hok
  cases hfound : violationsOf rule file source with
  | error e => simp [hfound, Except.isOk, Except.toBool] at hok
  | ok violations => rfl

/-- One failure is enough. -/
lemma exists_mapM_violationsOf {applicable : List ConfiguredRule} {source : Source} (file : String)
    (h : (applicable.any fun rule => !(rule.measure source).isOk) = true) :
    ∃ e, (applicable.mapM fun rule => violationsOf rule file source) = .error e := by
  obtain ⟨rule, hrule, hfails⟩ := List.any_eq_true.mp h
  cases hfound : applicable.mapM fun rule => violationsOf rule file source with
  | error e => exact ⟨e, rfl⟩
  | ok lists =>
    obtain ⟨violations, -, hok⟩ := (List.mapM_eq_ok_iff.mp hfound).exists_of_mem hrule
    rw [← isOk_violationsOf rule file, hok] at hfails
    cases hfails

/-- What becomes of a file. -/
lemma outcome_eq (r : Runner) (rules : List ConfiguredRule)
    (read : FilePath → Except FileError Source) (path : FilePath) :
    r.outcome rules read path =
      if r.counts rules path then
        if fails rules read path then .skipped (r.displayPath path)
        else .scanned (r.found rules read path)
      else .ignored := by
  unfold outcome
  split
  · next hexcluded => simp [counts, hexcluded]
  · next hexcluded =>
    split
    · next hnone =>
      have hcounts : ¬ r.counts rules path = true := fun h => (counts_iff.mp h).2 hnone
      rw [if_neg hcounts]
    · next hsome =>
      have hcounts : r.counts rules path = true :=
        counts_iff.mpr ⟨by simpa using hexcluded, hsome⟩
      rw [if_pos hcounts, ← handling]
      unfold fails found
      cases read path with
      | error e => rfl
      | ok source =>
        dsimp only
        by_cases hfails : ((handling rules path).any fun rule => !(rule.measure source).isOk) = true
        · obtain ⟨e, herror⟩ := exists_mapM_violationsOf (r.displayPath path) hfails
          rw [if_pos hfails, herror]
        · rw [if_neg hfails, mapM_violationsOf (by simpa using hfails), List.flatMap_def]

lemma violations_outcome (path : FilePath) : (r.outcome rules read path).violations =
    if !fails rules read path && r.counts rules path then r.found rules read path else [] := by
  rw [outcome_eq]
  cases r.counts rules path <;> cases fails rules read path <;> rfl

lemma isScanned_outcome (path : FilePath) : (r.outcome rules read path).isScanned =
    (!fails rules read path && r.counts rules path) := by
  rw [outcome_eq]
  cases r.counts rules path <;> cases fails rules read path <;> rfl

lemma skipped?_outcome (path : FilePath) : (r.outcome rules read path).skipped? =
    if fails rules read path && r.counts rules path then some (r.displayPath path) else none := by
  rw [outcome_eq]
  cases r.counts rules path <;> cases fails rules read path <;> rfl

/-! ## What a run gathers -/

variable {files : List FilePath}

/-- Those of some files that count. -/
def counted (r : Runner) (rules : List ConfiguredRule) (files : List FilePath) : List FilePath :=
  files.filter (r.counts rules)

/-- Those of some files that count and fail. -/
def failing (r : Runner) (rules : List ConfiguredRule)
    (read : FilePath → Except FileError Source) (files : List FilePath) : List FilePath :=
  (r.counted rules files).filter (fails rules read)

/-- Those of some files that count and do not fail. -/
def measured (r : Runner) (rules : List ConfiguredRule)
    (read : FilePath → Except FileError Source) (files : List FilePath) : List FilePath :=
  (r.counted rules files).filter fun path => !fails rules read path

lemma length_counted (r : Runner) (rules : List ConfiguredRule)
    (read : FilePath → Except FileError Source) (files : List FilePath) :
    (r.measured rules read files).length + (r.failing rules read files).length =
      (r.counted rules files).length := by
  unfold measured failing
  rw [Nat.add_comm]
  exact (List.length_eq_length_filter_add (fails rules read)).symm

/-- A run puts in order what it gathers from the files that count. -/
lemma run_eq (r : Runner) (rules : List ConfiguredRule)
    (read : FilePath → Except FileError Source) (files : List FilePath) :
    r.run rules read files = RunResult.sorted
      { violations := (r.measured rules read files).flatMap (r.found rules read)
        scanned := (r.measured rules read files).length
        skipped := (r.failing rules read files).map r.displayPath } := by
  unfold run RunResult.ofOutcomes measured failing counted
  simp only [List.filter_filter]
  congr 2
  · rw [List.flatMap_map]
    simp only [violations_outcome]
    induction files with
    | nil => rfl
    | cons path files ih =>
      rw [List.flatMap_cons, ih, List.filter_cons]
      split <;> simp
  · rw [List.countP_map, List.countP_eq_length_filter]
    simp only [Function.comp_def, isScanned_outcome]
  · rw [List.filterMap_map, ← List.filterMap_eq_map', List.filterMap_filter]
    simp only [Function.comp_def, skipped?_outcome]

/-- A run over the files that count is the same. -/
lemma run_counted (r : Runner) (rules : List ConfiguredRule)
    (read : FilePath → Except FileError Source) (files : List FilePath) :
    r.run rules read (r.counted rules files) = r.run rules read files := by
  simp only [run_eq, measured, failing, counted, List.filter_filter, Bool.and_self]

/-- A run over the files that are measured has the same violations. -/
lemma violations_run_measured (r : Runner) (rules : List ConfiguredRule)
    (read : FilePath → Except FileError Source) (files : List FilePath) :
    (r.run rules read (r.measured rules read files)).violations =
      (r.run rules read files).violations := by
  have hsame : r.measured rules read (r.measured rules read files) =
      r.measured rules read files := by
    unfold measured counted
    simp only [List.filter_filter]
    congr 1
    funext path
    cases r.counts rules path <;> cases fails rules read path <;> rfl
  rw [run_eq, hsame, run_eq]
  rfl

/-- In whatever order the workers take their steps. -/
lemma runScheduled_eq_run {schedule : List Step} (hschedule : schedule.Perm (steps files.length)) :
    r.runScheduled rules read files schedule = r.run rules read files := by
  apply Progress.result_foldl
  rwa [List.length_map]

/-- **Every file is accounted for.**  In whatever order the workers take their steps, scanned and
skipped files are together as many as there are files that count.  The skipped ones are those that
fail, each listed by its path as often as it occurs.  The violations are all that the rules find in
the others: a file that fails has none, also if some of its rules found any, and the result is the
same if the files that do not count are not listed. -/
theorem files_accounted (r : Runner) (rules : List ConfiguredRule)
    (read : FilePath → Except FileError Source) {files : List FilePath} {schedule : List Step}
    (hschedule : schedule.Perm (steps files.length)) :
    let result := r.runScheduled rules read files schedule
    result.scanned + result.skipped.length = (r.counted rules files).length ∧
      result.skipped.Perm ((r.failing rules read files).map r.displayPath) ∧
      result.violations.Perm ((r.measured rules read files).flatMap (r.found rules read)) ∧
      result.violations = (r.run rules read (r.measured rules read files)).violations ∧
      result = r.run rules read (r.counted rules files) := by
  intro result
  have hresult : result = r.run rules read files := runScheduled_eq_run hschedule
  rw [hresult, run_counted, violations_run_measured]
  have hskipped : (r.run rules read files).skipped.Perm
      ((r.failing rules read files).map r.displayPath) := by
    rw [run_eq]
    exact List.mergeSort_perm _ _
  have hviolations : (r.run rules read files).violations.Perm
      ((r.measured rules read files).flatMap (r.found rules read)) := by
    rw [run_eq]
    exact List.mergeSort_perm _ _
  have hscanned : (r.run rules read files).scanned = (r.measured rules read files).length := by
    rw [run_eq]
    rfl
  refine ⟨?_, hskipped, hviolations, rfl, rfl⟩
  rw [hscanned, hskipped.length_eq, List.length_map, length_counted]

/-! ## A sample -/

/-- A rule that fails on files with two constructors or more. -/
def pickyRule : ConfiguredRule :=
  { sampleRule with
    rule := { sampleRule.rule with
      measure := fun _ source =>
        if source.tree.length < 2 then .ok .empty else .error ⟨"too many constructors"⟩ } }

/-- The file `A.java` has one constructor and the others have two; `B.java` cannot be read. -/
def mixedRead (path : FilePath) : Except FileError Source :=
  if path = sampleFile "A.java" then .ok { sampleSource with tree := sampleSource.tree.take 1 }
  else sampleRead path

/-- The steps for four files in a mixed order. -/
def mixedSchedule : List Step :=
  [.note 2, .deliver 3, .note 3, .note 1, .note 0, .deliver 0, .deliver 1, .deliver 2]

/-- Of three files that count one is scanned.  The other two are skipped: one cannot be read, and
the second rule fails on the other, in which the first has found two constructors. -/
theorem files_accounted_of_samples :
    let r : Runner := ⟨⟨false, ["src"]⟩, ⟨[]⟩⟩
    let files := [sampleFile "C.java", sampleFile "A.java", sampleFile "D.txt", sampleFile "B.java"]
    let result := r.runScheduled [sampleRule, pickyRule] mixedRead files mixedSchedule
    result.scanned + result.skipped.length = 3 ∧ result.skipped.Perm ["C.java", "B.java"] ∧
      (r.found [sampleRule, pickyRule] mixedRead (sampleFile "C.java")).length = 2 ∧
      result.violations.map ReportedViolation.file = ["A.java"] := by
  intro r files result
  have hschedule : mixedSchedule.Perm (steps files.length) := by decide
  obtain ⟨hlength, hskipped, hviolations, -⟩ :=
    files_accounted r [sampleRule, pickyRule] mixedRead hschedule
  have hcounted : (r.counted [sampleRule, pickyRule] files).length = 3 := by decide +kernel
  have hfailing : (r.failing [sampleRule, pickyRule] mixedRead files).map r.displayPath =
      ["C.java", "B.java"] := by decide +kernel
  have hfiles : ((r.measured [sampleRule, pickyRule] mixedRead files).flatMap
      (r.found [sampleRule, pickyRule] mixedRead)).map ReportedViolation.file = ["A.java"] := by
    decide +kernel
  refine ⟨hlength.trans hcounted, hfailing ▸ hskipped, by decide +kernel, ?_⟩
  have hperm := hviolations.map ReportedViolation.file
  rw [hfiles] at hperm
  exact List.perm_singleton.mp hperm

end RuleMetrics.Runner
