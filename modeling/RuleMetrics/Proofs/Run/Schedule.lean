import RuleMetrics.Proofs.Except
import RuleMetrics.Proofs.Run.Order
import RuleMetrics.Rule.ConstructorSize
import RuleMetrics.Run.Runner

/-!
# Runs with several workers

Files are looked at by workers side by side.  A worker that is done with a file takes two steps: it
notes the file as scanned or skipped, in a counter and a list that all workers share, and it
delivers the violations to the place of the file.  The steps of all files come in any order
(`Progress.after`, `steps`).

No order matters.  Each place gets the violations of its file, the counter the number of scanned
files, and the list the skipped files in the order of the notes; putting the result in order makes
up for the last.  The order of the files does not matter either, if they are reported under
different paths, because violations that are level then come from one file
(`Runner.run_independent`).
-/

namespace RuleMetrics

/-! ## Workers -/

/-- A step of the worker that has the file at a place. -/
inductive Step where
  /-- It counts the file as scanned, or lists it as skipped. -/
  | note (place : Nat)
  /-- It hands in the violations of the file. -/
  | deliver (place : Nat)
deriving DecidableEq

/-- All steps that are taken for some number of files. -/
def steps (count : Nat) : List Step :=
  (List.range count).flatMap fun place => [.note place, .deliver place]

/-- What the workers have gathered. -/
structure Progress where
  /-- The violations that were delivered to each place. -/
  slots : List (List ReportedViolation)
  scanned : Nat
  skipped : List String

namespace Progress

/-- Nothing is gathered yet. -/
def start (count : Nat) : Progress :=
  ⟨List.replicate count [], 0, []⟩

/-- Note what became of a file. -/
def note (p : Progress) : FileOutcome → Progress
  | .ignored => p
  | .scanned _ => { p with scanned := p.scanned + 1 }
  | .skipped file => { p with skipped := p.skipped ++ [file] }

/-- A step, given what becomes of the file at each place. -/
def after (outcomes : List FileOutcome) (p : Progress) : Step → Progress
  | .note place => outcomes[place]?.elim p p.note
  | .deliver place =>
    outcomes[place]?.elim p fun outcome => { p with slots := p.slots.set place outcome.violations }

/-- The result of what was gathered. -/
def result (p : Progress) : RunResult :=
  RunResult.sorted ⟨p.slots.flatten, p.scanned, p.skipped⟩

end Progress

/-! ## What is gathered -/

/-- What a step notes. -/
def Step.noted? (outcomes : List FileOutcome) : Step → Option FileOutcome
  | note place => outcomes[place]?
  | deliver _ => none

lemma deliver_mem_steps {count place : Nat} (h : place < count) :
    Step.deliver place ∈ steps count := by
  simp [steps, h]

/-- Each outcome is noted once. -/
lemma filterMap_noted?_steps (outcomes : List FileOutcome) :
    (steps outcomes.length).filterMap (Step.noted? outcomes) = outcomes := by
  have hnoted : ∀ place,
      [Step.note place, .deliver place].filterMap (Step.noted? outcomes) =
        outcomes[place]?.toList := by
    intro place
    cases h : outcomes[place]? with
    | none => simp [Step.noted?, h]
    | some outcome => simp [Step.noted?, h]
  have hplaces : (List.range outcomes.length).map (fun place => outcomes[place]?) =
      outcomes.map some := by
    apply List.ext_getElem?
    intro place
    rw [List.getElem?_map, List.getElem?_map]
    grind
  calc (steps outcomes.length).filterMap (Step.noted? outcomes)
      = (List.range outcomes.length).flatMap fun place => outcomes[place]?.toList := by
        rw [steps, List.filterMap_flatMap, funext hnoted]
    _ = (List.range outcomes.length).filterMap fun place => outcomes[place]? :=
        (List.filterMap_eq_flatMap_toList _ _).symm
    _ = ((List.range outcomes.length).map fun place => outcomes[place]?).filterMap id := by
        rw [List.filterMap_map]
        rfl
    _ = outcomes := by
        rw [hplaces, List.filterMap_map]
        exact List.filterMap_some

namespace Progress

variable {outcomes : List FileOutcome} {schedule : List Step}

@[simp]
lemma note_slots (p : Progress) (outcome : FileOutcome) : (p.note outcome).slots = p.slots := by
  cases outcome <;> rfl

lemma note_scanned (p : Progress) (outcome : FileOutcome) :
    (p.note outcome).scanned = p.scanned + [outcome].countP FileOutcome.isScanned := by
  cases outcome <;> rfl

lemma note_skipped (p : Progress) (outcome : FileOutcome) :
    (p.note outcome).skipped = p.skipped ++ [outcome].filterMap FileOutcome.skipped? := by
  cases outcome with
  | ignored => exact (List.append_nil _).symm
  | scanned violations => exact (List.append_nil _).symm
  | skipped file => rfl

/-- What a step notes is added to the counter and to the list. -/
lemma notes_after (p : Progress) (s : Step) :
    (p.after outcomes s).scanned =
        p.scanned + (s.noted? outcomes).toList.countP FileOutcome.isScanned ∧
      (p.after outcomes s).skipped =
        p.skipped ++ (s.noted? outcomes).toList.filterMap FileOutcome.skipped? := by
  unfold after Step.noted?
  cases s with
  | note place =>
    dsimp only
    cases outcomes[place]? with
    | none => simp
    | some outcome => exact ⟨p.note_scanned outcome, p.note_skipped outcome⟩
  | deliver place =>
    dsimp only
    cases outcomes[place]? with
    | none => simp
    | some outcome => simp

/-- A step delivers to its own place only. -/
lemma slots_after {p : Progress} (hlength : p.slots.length = outcomes.length) (s : Step) :
    (p.after outcomes s).slots.length = outcomes.length ∧
      ∀ place, (p.after outcomes s).slots[place]? =
        if s = .deliver place then outcomes[place]?.map FileOutcome.violations
        else p.slots[place]? := by
  unfold after
  cases s with
  | note other =>
    dsimp only
    cases outcomes[other]? with
    | none => simpa using hlength
    | some outcome => simpa using hlength
  | deliver other =>
    dsimp only
    cases houtcome : outcomes[other]? with
    | none =>
      refine ⟨hlength, fun place => ?_⟩
      have hmissing : p.slots[other]? = none := by
        simpa [hlength] using houtcome
      split
      · next hplace =>
        cases hplace
        rw [houtcome]
        exact hmissing
      · rfl
    | some outcome =>
      have hlt : other < p.slots.length := by
        rw [hlength]
        exact (List.getElem?_eq_some_iff.mp houtcome).1
      refine ⟨by simpa using hlength, fun place => ?_⟩
      split
      · next hplace =>
        cases hplace
        simp [houtcome, hlt]
      · next hplace =>
        exact List.getElem?_set_ne fun h => hplace (congrArg Step.deliver h)

/-- What the steps of a schedule note. -/
lemma notes_foldl (schedule : List Step) (p : Progress) :
    (schedule.foldl (after outcomes) p).scanned =
        p.scanned + (schedule.filterMap (Step.noted? outcomes)).countP FileOutcome.isScanned ∧
      (schedule.foldl (after outcomes) p).skipped =
        p.skipped ++
          (schedule.filterMap (Step.noted? outcomes)).filterMap FileOutcome.skipped? := by
  induction schedule generalizing p with
  | nil => simp
  | cons s rest ih =>
    obtain ⟨hrest, hrest'⟩ := ih (p.after outcomes s)
    obtain ⟨hscanned, hskipped⟩ := notes_after p s
    have hcons : (s :: rest).filterMap (Step.noted? outcomes) =
        (s.noted? outcomes).toList ++ rest.filterMap (Step.noted? outcomes) := by
      rw [List.filterMap_cons]
      cases s.noted? outcomes with
      | none => rfl
      | some outcome => rfl
    rw [List.foldl_cons, hrest, hrest', hscanned, hskipped, hcons, List.countP_append,
      List.filterMap_append, Nat.add_assoc, List.append_assoc]
    exact ⟨rfl, rfl⟩

/-- Each place has what was delivered to it, however often and when. -/
lemma slots_foldl {p : Progress} (hlength : p.slots.length = outcomes.length) (place : Nat) :
    (schedule.foldl (after outcomes) p).slots[place]? =
      if .deliver place ∈ schedule then outcomes[place]?.map FileOutcome.violations
      else p.slots[place]? := by
  induction schedule generalizing p with
  | nil => rfl
  | cons s rest ih =>
    obtain ⟨hafter, hslots⟩ := slots_after hlength s
    rw [List.foldl_cons, ih hafter, hslots]
    by_cases hrest : .deliver place ∈ rest
    · rw [if_pos hrest, if_pos (List.mem_cons_of_mem s hrest)]
    · rw [if_neg hrest]
      by_cases hs : s = .deliver place
      · rw [if_pos hs, if_pos (by simp [hs])]
      · rw [if_neg hs, if_neg (by simp [hrest, Ne.symm hs])]

/-- In whatever order the steps are taken, the result is that of the outcomes. -/
theorem result_foldl (hschedule : schedule.Perm (steps outcomes.length)) :
    (schedule.foldl (after outcomes) (start outcomes.length)).result =
      RunResult.ofOutcomes outcomes := by
  have hnoted : (schedule.filterMap (Step.noted? outcomes)).Perm outcomes := by
    have hperm := hschedule.filterMap (Step.noted? outcomes)
    rwa [filterMap_noted?_steps] at hperm
  obtain ⟨hscanned, hskipped⟩ := notes_foldl schedule (start outcomes.length)
  have hslots : (schedule.foldl (after outcomes) (start outcomes.length)).slots =
      outcomes.map FileOutcome.violations := by
    apply List.ext_getElem?
    intro place
    rw [slots_foldl (by simp [start]), List.getElem?_map]
    split
    · rfl
    · next hmissing =>
      have hplace : outcomes.length ≤ place := by
        by_contra hlt
        exact hmissing (hschedule.mem_iff.mpr (deliver_mem_steps (by omega)))
      simp [start, hplace]
  apply RunResult.sorted_eq_sorted
  · intro k
    rw [hslots, List.flatMap_def]
  · rw [hscanned]
    simpa [start] using hnoted.countP_eq _
  · rw [hskipped]
    simpa [start] using hnoted.filterMap _

end Progress

/-! ## Files -/

namespace Runner

variable {r : Runner} {rules : List ConfiguredRule} {read : FilePath → Except FileError Source}

lemma file_eq_of_mem_violationsOf {rule : ConfiguredRule} {file : String} {source : Source}
    {found : List ReportedViolation} (h : violationsOf rule file source = .ok found)
    {v : ReportedViolation} (hv : v ∈ found) : v.file = file := by
  obtain ⟨measurements, -, ⟨⟩⟩ := Except.bind_eq_ok_iff.mp h
  obtain ⟨violation, -, rfl⟩ := List.mem_map.mp hv
  rfl

/-- A violation is reported under the path of its file. -/
lemma file_eq_of_mem_outcome {path : FilePath} {v : ReportedViolation}
    (hv : v ∈ (r.outcome rules read path).violations) : v.file = r.displayPath path := by
  unfold outcome at hv
  split at hv
  · cases hv
  · split at hv
    · cases hv
    · dsimp only at hv
      split at hv
      · cases hv
      · split at hv
        · cases hv
        · next hfound =>
          obtain ⟨list, hlist, hv⟩ := List.mem_flatten.mp hv
          obtain ⟨rule, -, hrule⟩ := (List.mapM_eq_ok_iff.mp hfound).flip.exists_of_mem hlist
          exact file_eq_of_mem_violationsOf hrule hv

lemma filter_key_outcome_of_ne {path : FilePath} {k : String ×ₗ ℕ ×ₗ String}
    (hk : (ofLex k).1 ≠ r.displayPath path) :
    ((r.outcome rules read path).violations.filter fun v => v.key = k) = [] := by
  rw [List.filter_eq_nil_iff]
  intro v hv hkey
  have hfile := file_eq_of_mem_outcome hv
  apply hk
  rw [← hfile, ← of_decide_eq_true hkey]
  rfl

/-- Without a file under the path of a key, there are no violations of the key. -/
lemma filter_key_of_not_mem {files : List FilePath} {k : String ×ₗ ℕ ×ₗ String}
    (hk : (ofLex k).1 ∉ files.map r.displayPath) :
    ((files.flatMap fun f => (r.outcome rules read f).violations).filter fun v => v.key = k) =
      [] := by
  rw [List.filter_flatMap, List.flatMap_eq_nil_iff]
  intro path hpath
  apply filter_key_outcome_of_ne
  rintro heq
  exact hk (heq ▸ List.mem_map_of_mem hpath)

/-- The violations of a key are those of the file under its path. -/
lemma filter_key_of_mem {files : List FilePath} (hdistinct : (files.map r.displayPath).Nodup)
    {path : FilePath} (hpath : path ∈ files) {k : String ×ₗ ℕ ×ₗ String}
    (hk : (ofLex k).1 = r.displayPath path) :
    ((files.flatMap fun f => (r.outcome rules read f).violations).filter fun v => v.key = k) =
      (r.outcome rules read path).violations.filter fun v => v.key = k := by
  induction files with
  | nil => cases hpath
  | cons first rest ih =>
    obtain ⟨hfirst, hrest⟩ := List.nodup_cons.mp hdistinct
    rw [List.flatMap_cons, List.filter_append]
    rcases List.mem_cons.mp hpath with rfl | hpath
    · rw [filter_key_of_not_mem (hk ▸ hfirst), List.append_nil]
    · have hne : (ofLex k).1 ≠ r.displayPath first := by
        intro heq
        exact hfirst (heq ▸ hk ▸ List.mem_map_of_mem hpath)
      rw [filter_key_outcome_of_ne hne, ih hrest hpath]
      rfl

/-! ## Every order -/

/-- Run rules over files, with the steps of the workers in some order. -/
def runScheduled (r : Runner) (rules : List ConfiguredRule)
    (read : FilePath → Except FileError Source) (files : List FilePath) (schedule : List Step) :
    RunResult :=
  let outcomes := files.map (r.outcome rules read)
  (schedule.foldl (Progress.after outcomes) (Progress.start outcomes.length)).result

/-- The order of the files does not matter. -/
lemma run_eq_of_perm {files files' : List FilePath} (hdistinct : (files.map r.displayPath).Nodup)
    (hfiles : files'.Perm files) : r.run rules read files' = r.run rules read files := by
  have houtcomes := hfiles.map (r.outcome rules read)
  have hdistinct' : (files'.map r.displayPath).Nodup :=
    (hfiles.map r.displayPath).nodup_iff.mpr hdistinct
  apply RunResult.sorted_eq_sorted
  · intro k
    simp only [List.flatMap_map]
    by_cases hk : (ofLex k).1 ∈ files.map r.displayPath
    · obtain ⟨path, hpath, hname⟩ := List.mem_map.mp hk
      rw [filter_key_of_mem hdistinct hpath hname.symm,
        filter_key_of_mem hdistinct' (hfiles.mem_iff.mpr hpath) hname.symm]
    · have hk' : (ofLex k).1 ∉ files'.map r.displayPath := by
        rwa [(hfiles.map r.displayPath).mem_iff]
      rw [filter_key_of_not_mem hk, filter_key_of_not_mem hk']
  · exact houtcomes.countP_eq _
  · exact houtcomes.filterMap _

/-- **A run depends neither on the workers nor on the order of the files.**  Take files that are
reported under different paths.  In whatever order they are listed and the steps of the workers are
taken, the result is the same.  Its violations are in the order of file, line and rule, and those
that agree in all three are in the order in which they were found in their file. -/
theorem run_independent (r : Runner) (rules : List ConfiguredRule)
    (read : FilePath → Except FileError Source) {files files' : List FilePath}
    {schedule : List Step} (hdistinct : (files.map r.displayPath).Nodup)
    (hfiles : files'.Perm files) (hschedule : schedule.Perm (steps files'.length)) :
    r.runScheduled rules read files' schedule = r.run rules read files ∧
      ((r.run rules read files).violations.Pairwise fun a b =>
        a.file < b.file ∨ a.file = b.file ∧
          (a.line < b.line ∨ a.line = b.line ∧ a.rule ≤ b.rule)) ∧
      ∀ path ∈ files, ∀ line rule,
        ((r.run rules read files).violations.filter fun v =>
          v.file = r.displayPath path ∧ v.line = line ∧ v.rule = rule) =
        (r.outcome rules read path).violations.filter fun v =>
          v.file = r.displayPath path ∧ v.line = line ∧ v.rule = rule := by
  refine ⟨?_, ?_, ?_⟩
  · have hsteps : schedule.Perm (steps (files'.map (r.outcome rules read)).length) := by
      rwa [List.length_map]
    exact (Progress.result_foldl hsteps).trans (run_eq_of_perm hdistinct hfiles)
  · exact (RunResult.pairwise_sorted _).imp ReportedViolation.key_le_key_iff.mp
  · intro path hpath line rule
    simp only [← ReportedViolation.key_eq_iff]
    rw [run, RunResult.ofOutcomes, RunResult.filter_key_sorted, List.flatMap_map,
      filter_key_of_mem hdistinct hpath rfl]

/-! ## A sample -/

/-- Every constructor is reported. -/
def sampleRule : ConfiguredRule where
  rule := ConstructorSize.rule ⟨[], [], []⟩
  selector := ⟨.minimum (Decimal.floatOfNat 1), none⟩
  severity := .info

/-- A file with two constructors on one line. -/
def sampleSource : Source where
  content := ByteArray.empty
  tree := [.node ⟨"constructor_declaration", none, some "A() \x7b\x7d", 0, true⟩ [],
    .node ⟨"constructor_declaration", none, some "A(int i) \x7b\x7d", 0, true⟩ []]

/-- The file of this name in the directory of the sample. -/
def sampleFile (name : String) : FilePath :=
  ⟨false, ["src", name]⟩

/-- All files but one can be read. -/
def sampleRead (path : FilePath) : Except FileError Source :=
  if path = sampleFile "B.java" then .error .notFound else .ok sampleSource

/-- Three files, whose steps are taken in a mixed order. -/
theorem run_independent_of_samples :
    runScheduled ⟨⟨false, ["src"]⟩, ⟨[]⟩⟩ [sampleRule] sampleRead
        [sampleFile "C.java", sampleFile "A.java", sampleFile "B.java"]
        [.deliver 2, .note 1, .note 0, .deliver 0, .note 2, .deliver 1] =
      run ⟨⟨false, ["src"]⟩, ⟨[]⟩⟩ [sampleRule] sampleRead
        [sampleFile "A.java", sampleFile "B.java", sampleFile "C.java"] :=
  (run_independent _ [sampleRule] sampleRead (by decide) (by decide) (by decide)).1

end Runner

end RuleMetrics
