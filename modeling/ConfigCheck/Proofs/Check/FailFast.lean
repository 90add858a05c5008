import ConfigCheck.Proofs.Check.Directory
import ConfigCheck.Proofs.Check.Gate

/-!
# Failing fast

A file stops the check if it is no document or has violations.  The first file that does decides
what a check of files gives: its own error, or the reports on the files before it, which have all
passed, with its own report behind them (`Checker.FailsFast`).  What comes later in the list is
never looked at.

For one file this is a case distinction (`Checker.outcome_checkFiles_of_stops`,
`Checker.outcome_checkFiles_of_passed`), and the place of the first file that stops the check is
found by induction on the list (`Checker.outcome_checkFiles_of_findIdx?`).
-/

namespace ConfigCheck

/-- A document is made of the content of its file and nothing else. -/
lemma Document.load_congr {fs fs' : FileSystem} {path : Path} (h : fs'.read path = fs.read path) :
    Document.load fs' path = Document.load fs path := by
  unfold Document.load
  rw [h]

/-- The files of a target do not depend on the content of any file. -/
lemma Target.files_congr {fs fs' : FileSystem} (hkind : fs'.kind = fs.kind)
    (hentries : fs'.entries = fs.entries) (target : Path) :
    Target.files fs' target = Target.files fs target := by
  unfold Target.files Target.ofDirectory Target.eligible Target.skipped Target.verdict
  rw [hkind, hentries]

namespace Checker

/-- Whether the check of files ends with a file: it is no document, or one with violations. -/
def stops (c : Checker) (fs : FileSystem) (path : Path) : Bool :=
  match (Document.load fs path).outcome with
  | .error _ => true
  | .ok document => !(c.validator.violations document.value).isEmpty

/-- A file that does not stop the check has a report that has passed. -/
lemma stops_eq_false_iff {c : Checker} {fs : FileSystem} {path : Path} :
    c.stops fs path = false ↔
      ∃ report, (c.checkFile fs path).outcome = .ok report ∧ report.passed = true := by
  simp only [checkFile_passed_iff]
  unfold stops
  cases (Document.load fs path).outcome with
  | error e => simp
  | ok document => simp

/-- A report that has not passed is one on a document with violations. -/
lemma stops_eq_true_iff {c : Checker} {fs : FileSystem} {path : Path} {document : Document}
    (h : (Document.load fs path).outcome = .ok document) :
    c.stops fs path = true ↔ c.validator.violations document.value ≠ [] := by
  unfold stops
  rw [h]
  simp

/-- Whether a file stops the check is a matter of its content. -/
lemma stops_congr {c : Checker} {fs fs' : FileSystem} {path : Path}
    (h : fs'.read path = fs.read path) : c.stops fs' path = c.stops fs path := by
  unfold stops
  rw [Document.load_congr h]

/-- If the first file stops the check, it alone decides. -/
lemma outcome_checkFiles_of_stops {c : Checker} {fs : FileSystem} {path : Path}
    (h : c.stops fs path = true) (rest : List Path) :
    (c.checkFiles fs (path :: rest)).outcome =
      (Document.load fs path).outcome.map fun document => [c.report document] := by
  rw [outcome_checkFiles_cons, outcome_checkFile]
  cases hload : (Document.load fs path).outcome with
  | error e => rfl
  | ok document =>
    have hviolations := (stops_eq_true_iff hload).mp h
    have hfailed : ¬ (c.report document).passed = true := fun hpassed =>
      hviolations (FileReport.passed_iff.mp hpassed)
    change (if (c.report document).passed = true then _ else _) = _
    rw [if_neg hfailed]
    rfl

/-- If the first file passes, its report stands before those on the others. -/
lemma outcome_checkFiles_of_passed {c : Checker} {fs : FileSystem} {path : Path}
    {report : FileReport} (hfile : (c.checkFile fs path).outcome = .ok report)
    (hpassed : report.passed = true) (rest : List Path) :
    (c.checkFiles fs (path :: rest)).outcome =
      (c.checkFiles fs rest).outcome.map (report :: ·) := by
  rw [outcome_checkFiles_cons, hfile]
  change (if report.passed = true then _ else _) = _
  rw [if_pos hpassed]
  cases (c.checkFiles fs rest).outcome <;> rfl

/-- The reports on files that have all passed, one for each file, in order. -/
def Passes (c : Checker) (fs : FileSystem) : List Path → List FileReport → Prop :=
  List.Forall₂ fun path report =>
    (c.checkFile fs path).outcome = .ok report ∧ report.status = "passed"

/-- A file passes if its report says so. -/
lemma status_eq_passed_iff {report : FileReport} :
    report.status = "passed" ↔ report.passed = true := by
  refine ⟨fun h => ?_, FileReport.status_of_passed⟩
  unfold FileReport.status at h
  split at h
  · assumption
  · simp at h

/-- A file fails if its report does not pass. -/
lemma status_eq_failed_iff {report : FileReport} :
    report.status = "failed" ↔ report.passed = false := by
  unfold FileReport.status
  cases report.passed <;> simp

/-- If no file stops the check, each has its report. -/
lemma outcome_checkFiles_of_findIdx?_eq_none {c : Checker} {fs : FileSystem} {paths : List Path}
    (h : paths.findIdx? (c.stops fs) = none) :
    ∃ reports, (c.checkFiles fs paths).outcome = .ok reports ∧ c.Passes fs paths reports := by
  induction paths with
  | nil => exact ⟨[], rfl, .nil⟩
  | cons path rest ih =>
    rw [List.findIdx?_eq_none_iff] at h
    obtain ⟨hpath, hrest⟩ := List.forall_mem_cons.mp h
    obtain ⟨report, hfile, hpassed⟩ := stops_eq_false_iff.mp hpath
    obtain ⟨reports, hreports, hpasses⟩ := ih (List.findIdx?_eq_none_iff.mpr hrest)
    refine ⟨report :: reports, ?_, .cons ⟨hfile, status_eq_passed_iff.mpr hpassed⟩ hpasses⟩
    rw [outcome_checkFiles_of_passed hfile hpassed, hreports]
    rfl

/-- The first file that stops the check decides: the files before it have passed, and its own
report, or its error, comes last. -/
lemma outcome_checkFiles_of_findIdx? {c : Checker} {fs : FileSystem} {paths : List Path} {k : Nat}
    (h : paths.findIdx? (c.stops fs) = some k) :
    ∃ path reports, paths[k]? = some path ∧ c.Passes fs (paths.take k) reports ∧
      (c.checkFiles fs paths).outcome =
        (Document.load fs path).outcome.map fun document => reports ++ [c.report document] := by
  induction paths generalizing k with
  | nil => simp at h
  | cons path rest ih =>
    rw [List.findIdx?_cons] at h
    split at h
    · rename_i hstops
      cases h
      exact ⟨path, [], rfl, .nil, outcome_checkFiles_of_stops hstops rest⟩
    · rename_i hpath
      obtain ⟨i, hi, rfl⟩ := Option.map_eq_some_iff.mp h
      obtain ⟨report, hfile, hpassed⟩ := stops_eq_false_iff.mp (Bool.eq_false_iff.mpr hpath)
      obtain ⟨last, reports, hlast, hpasses, hreports⟩ := ih hi
      refine ⟨last, report :: reports, hlast,
        .cons ⟨hfile, status_eq_passed_iff.mpr hpassed⟩ hpasses, ?_⟩
      rw [outcome_checkFiles_of_passed hfile hpassed, hreports]
      cases (Document.load fs last).outcome <;> rfl

/-- What comes behind the first file that stops the check does not count. -/
lemma outcome_checkFiles_congr {c : Checker} {fs fs' : FileSystem} {paths : List Path} {k : Nat}
    (hk : paths.findIdx? (c.stops fs) = some k)
    (h : ∀ path ∈ paths.take (k + 1), fs'.read path = fs.read path) :
    (c.checkFiles fs' paths).outcome = (c.checkFiles fs paths).outcome := by
  induction paths generalizing k with
  | nil => rfl
  | cons path rest ih =>
    rw [List.take_succ_cons] at h
    obtain ⟨hpath, hrest⟩ := List.forall_mem_cons.mp h
    rw [List.findIdx?_cons] at hk
    split at hk
    · rename_i hstops
      have hstops' : c.stops fs' path = true := (stops_congr hpath).trans hstops
      rw [outcome_checkFiles_of_stops hstops, outcome_checkFiles_of_stops hstops',
        Document.load_congr hpath]
    · obtain ⟨i, hi, rfl⟩ := Option.map_eq_some_iff.mp hk
      rw [outcome_checkFiles_cons, outcome_checkFiles_cons, outcome_checkFile, outcome_checkFile,
        Document.load_congr hpath, ih hi hrest]

/-- How a check of files ends. -/
structure FailsFast (c : Checker) (fs : FileSystem) (paths : List Path) : Prop where
  /-- If no file stops the check, there is the report on each file, in order. -/
  complete : paths.findIdx? (c.stops fs) = none →
    ∃ reports, (c.checkFiles fs paths).outcome = .ok reports ∧ c.Passes fs paths reports
  /-- The first file that stops the check gives its own error if it is no document. -/
  unreadable : ∀ k path e, paths.findIdx? (c.stops fs) = some k → paths[k]? = some path →
    (Document.load fs path).outcome = .error e → (c.checkFiles fs paths).outcome = .error e
  /-- If it is a document, it is the last one that has a report, and the only one that fails; the
  report holds all its violations. -/
  failed : ∀ k path document, paths.findIdx? (c.stops fs) = some k → paths[k]? = some path →
    (Document.load fs path).outcome = .ok document →
      ∃ reports last, (c.checkFiles fs paths).outcome = .ok (reports ++ [last]) ∧
        reports.length = k ∧ c.Passes fs (paths.take k) reports ∧
        (c.checkFile fs path).outcome = .ok last ∧ last.status = "failed" ∧
        last.violations = c.validator.violations document.value ∧ last.violations ≠ []
  /-- The files behind it do not count. -/
  unaffected : ∀ k fs', paths.findIdx? (c.stops fs) = some k →
    (∀ path ∈ paths.take (k + 1), fs'.read path = fs.read path) →
      (c.checkFiles fs' paths).outcome = (c.checkFiles fs paths).outcome

/-- Every check of files ends so. -/
lemma failsFast (c : Checker) (fs : FileSystem) (paths : List Path) : c.FailsFast fs paths where
  complete := outcome_checkFiles_of_findIdx?_eq_none
  unreadable := by
    intro k path e hk hpath hload
    obtain ⟨path', reports, hpath', -, hreports⟩ := outcome_checkFiles_of_findIdx? hk
    cases hpath.symm.trans hpath'
    rw [hreports, hload]
    rfl
  failed := by
    intro k path document hk hpath hload
    obtain ⟨path', reports, hpath', hpasses, hreports⟩ := outcome_checkFiles_of_findIdx? hk
    cases hpath.symm.trans hpath'
    have hstops : c.stops fs path = true := by
      obtain ⟨hlt, hstops, -⟩ := List.findIdx?_eq_some_iff_getElem.mp hk
      rwa [(List.getElem?_eq_some_iff.mp hpath).2] at hstops
    have hviolations := (stops_eq_true_iff hload).mp hstops
    refine ⟨reports, c.report document, ?_, ?_, hpasses, ?_, ?_, rfl, hviolations⟩
    · rw [hreports, hload]
      rfl
    · have hlt := (List.getElem?_eq_some_iff.mp hpath).1
      rw [← hpasses.length_eq, List.length_take_of_le (by omega)]
    · rw [outcome_checkFile, hload]
      rfl
    · exact status_eq_failed_iff.mpr (Bool.eq_false_iff.mpr fun hpassed =>
        hviolations (FileReport.passed_iff.mp hpassed))
  unaffected := fun _ _ => outcome_checkFiles_congr

/-- Only the last report of a check may fail. -/
lemma passed_of_mem_dropLast {c : Checker} {fs : FileSystem} {paths : List Path}
    {reports : List FileReport} (h : (c.checkFiles fs paths).outcome = .ok reports) :
    ∀ report ∈ reports.dropLast, report.passed = true := by
  induction paths generalizing reports with
  | nil =>
    cases h
    simp
  | cons path rest ih =>
    rw [outcome_checkFiles_cons, bind_eq_ok_iff] at h
    obtain ⟨report, -, h⟩ := h
    split at h
    · rename_i hpassed
      obtain ⟨others, hothers, hreports⟩ := bind_eq_ok_iff.mp h
      cases hreports
      cases others with
      | nil => simp
      | cons other others =>
        rw [List.dropLast_cons_cons]
        exact List.forall_mem_cons.mpr ⟨hpassed, ih hothers⟩
    · cases h
      simp

end Checker

/-- A report fails exactly if its last file does, and this file is then the failure, as long as no
other file fails. -/
lemma CheckReport.passed_eq_false_iff {report : CheckReport}
    (h : ∀ file ∈ report.files.dropLast, file.passed = true) :
    (report.passed = false ↔ ∃ last, report.files.getLast? = some last ∧ last.status = "failed") ∧
      ∀ last, report.files.getLast? = some last → last.status = "failed" →
        report.failure? = some last := by
  unfold passed failure?
  rcases List.eq_nil_or_concat report.files with hfiles | ⟨files, last, hfiles⟩
  · simp [hfiles]
  · rw [List.concat_eq_append] at hfiles
    rw [hfiles, List.dropLast_concat] at h
    have hall : files.all FileReport.passed = true := List.all_eq_true.mpr h
    have hnone : (files.find? fun file => !file.passed) = none := by
      rw [List.find?_eq_none]
      intro file hmem
      simp [h file hmem]
    simp only [hfiles, List.getLast?_concat, Option.some.injEq, Checker.status_eq_failed_iff,
      List.all_append, hall, List.find?_append, hnone]
    constructor
    · simp
    · rintro _ rfl hfailed
      simp [hfailed]

/-- A target that names no files ends the check. -/
lemma runCheck_of_files_eq_error {fs : FileSystem} {schema target : Path} {c : Checker}
    {e : CheckError} (hc : (Checker.load fs schema).outcome = .ok c)
    (he : (Target.files fs target).outcome = .error e) :
    (runCheck fs schema target).outcome = .error e := by
  rw [outcome_runCheck, hc, he]
  rfl

/-- The files of a target make its report. -/
lemma runCheck_of_files {fs : FileSystem} {schema target : Path} {c : Checker} {paths : List Path}
    (hc : (Checker.load fs schema).outcome = .ok c)
    (hpaths : (Target.files fs target).outcome = .ok paths) :
    (runCheck fs schema target).outcome =
      (c.checkFiles fs paths).outcome.map fun reports => ⟨schema, target, reports⟩ := by
  rw [outcome_runCheck, hc, hpaths]
  simp only [bind, Except.bind]
  cases (c.checkFiles fs paths).outcome <;> rfl

/-- A check fails fast.  Within a list of files the first one that is no document or has violations
decides (`Checker.FailsFast`).  A check of a target ends with the error of the schema, whatever the
target is; else with that of the target, whatever the files hold; else it is the check of the files.
It fails exactly if its last file does, which is then the failure; and what the files behind the
first one that stops it hold does not count. -/
theorem runCheck_failsFast (fs : FileSystem) (schema : Path) :
    (∀ (c : Checker) (paths : List Path), c.FailsFast fs paths) ∧
    (∀ e, (Checker.load fs schema).outcome = .error e →
      ∀ target, (runCheck fs schema target).outcome = .error e) ∧
    ∀ c target, (Checker.load fs schema).outcome = .ok c →
      (∀ e, (Target.files fs target).outcome = .error e →
        (runCheck fs schema target).outcome = .error e ∧
        ∀ fs' c', fs'.kind = fs.kind → fs'.entries = fs.entries →
          (Checker.load fs' schema).outcome = .ok c' →
            (runCheck fs' schema target).outcome = .error e) ∧
      ∀ paths, (Target.files fs target).outcome = .ok paths →
        ((runCheck fs schema target).outcome =
          (c.checkFiles fs paths).outcome.map fun reports => ⟨schema, target, reports⟩) ∧
        (∀ report, (runCheck fs schema target).outcome = .ok report →
          (report.passed = false ↔
            ∃ last, report.files.getLast? = some last ∧ last.status = "failed") ∧
          ∀ last, report.files.getLast? = some last → last.status = "failed" →
            report.failure? = some last) ∧
        ∀ k fs', paths.findIdx? (c.stops fs) = some k →
          (Checker.load fs' schema).outcome = .ok c →
          (Target.files fs' target).outcome = .ok paths →
          (∀ path ∈ paths.take (k + 1), fs'.read path = fs.read path) →
            (runCheck fs' schema target).outcome = (runCheck fs schema target).outcome := by
  refine ⟨fun c paths => c.failsFast fs paths, ?_, ?_⟩
  · intro e he target
    rw [outcome_runCheck, he]
    rfl
  · intro c target hc
    refine ⟨fun e he => ⟨runCheck_of_files_eq_error hc he, ?_⟩, ?_⟩
    · intro fs' c' hkind hentries hc'
      rw [← Target.files_congr hkind hentries] at he
      exact runCheck_of_files_eq_error hc' he
    · intro paths hpaths
      refine ⟨runCheck_of_files hc hpaths, ?_, ?_⟩
      · intro report hreport
        obtain ⟨c', files, reports, -, -, hreports, rfl⟩ := runCheck_eq_ok_iff.mp hreport
        exact CheckReport.passed_eq_false_iff (Checker.passed_of_mem_dropLast hreports)
      · intro k fs' hk hc' hpaths' hreads
        rw [runCheck_of_files hc hpaths, runCheck_of_files hc' hpaths',
          (c.failsFast fs paths).unaffected k fs' hk hreads]

namespace Tree

/-- The files `a.json`, `b.json` and `c.json` of the directory `.`. -/
def threePaths : List Path :=
  [⟨[0x2e, 0x2f, 0x61, 0x2e, 0x6a, 0x73, 0x6f, 0x6e]⟩,
    ⟨[0x2e, 0x2f, 0x62, 0x2e, 0x6a, 0x73, 0x6f, 0x6e]⟩,
    ⟨[0x2e, 0x2f, 0x63, 0x2e, 0x6a, 0x73, 0x6f, 0x6e]⟩]

/-- A directory with a schema for lists in the file `s`, a list in `a.json`, a number in `b.json`,
and a bracket in `c.json` that may be closed. -/
def withThreeFiles (closed : Bool) : Tree where
  root := .directory
    [(⟨[0x61, 0x2e, 0x6a, 0x73, 0x6f, 0x6e], .refl true⟩, .regular (.ok [0x5b, 0x5d])),
      (⟨[0x62, 0x2e, 0x6a, 0x73, 0x6f, 0x6e], .refl true⟩, .regular (.ok [0x30])),
      (⟨[0x63, 0x2e, 0x6a, 0x73, 0x6f, 0x6e], .refl true⟩,
        .regular (.ok (if closed then [0x5b, 0x5d] else [0x5b]))),
      (⟨[0x73], .refl true⟩, .regular (.ok [0x7b, 0x22, 0x74, 0x79, 0x70, 0x65, 0x22, 0x3a, 0x22,
        0x61, 0x72, 0x72, 0x61, 0x79, 0x22, 0x7d]))]
  here := []

/-- The directory stands for its three files. -/
lemma files_withThreeFiles (closed : Bool) :
    (Target.files (withThreeFiles closed).fileSystem ⟨[0x2e]⟩).outcome = .ok threePaths := by
  let listed : List Name := [⟨[0x61, 0x2e, 0x6a, 0x73, 0x6f, 0x6e], by decide⟩,
    ⟨[0x62, 0x2e, 0x6a, 0x73, 0x6f, 0x6e], by decide⟩,
    ⟨[0x63, 0x2e, 0x6a, 0x73, 0x6f, 0x6e], by decide⟩]
  let names : List Name := listed ++ [⟨[0x73], by decide⟩]
  have hentries : (withThreeFiles closed).fileSystem.entries ⟨[0x2e]⟩ = .ok names := rfl
  have hfilter : names.filter (fun n =>
      Target.verdict (withThreeFiles closed).fileSystem (Path.join ⟨[0x2e]⟩ n) = .eligible) =
        listed := by
    cases closed <;> decide +kernel
  exact Target.files_of_listed rfl hentries hfilter (by decide) (List.cons_ne_nil _ _)

/-- A checker for lists comes to an end with the number. -/
lemma findIdx?_stops_withThreeFiles {c : Checker}
    (hc : ∀ v, c.validator.violations v = [] ↔ ∃ items, v = .array items) :
    threePaths.findIdx? (c.stops (withThreeFiles false).fileSystem) = some 1 ∧
      ∃ document, (Document.load (withThreeFiles false).fileSystem
        ⟨[0x2e, 0x2f, 0x62, 0x2e, 0x6a, 0x73, 0x6f, 0x6e]⟩).outcome = .ok document := by
  let a : Path := ⟨[0x2e, 0x2f, 0x61, 0x2e, 0x6a, 0x73, 0x6f, 0x6e]⟩
  let b : Path := ⟨[0x2e, 0x2f, 0x62, 0x2e, 0x6a, 0x73, 0x6f, 0x6e]⟩
  have hload : ∀ path ∈ [a, b], (Document.load (withThreeFiles false).fileSystem path).outcome =
      .ok ⟨path, .json, if path = a then .array [] else .number (.int 0)⟩ := by
    have hformat : Format.ofPath a = .json ∧ Format.ofPath b = .json :=
      ⟨Format.ofPath_eq_json (by decide), Format.ofPath_eq_json (by decide)⟩
    refine List.forall_mem_cons.mpr ⟨?_, List.forall_mem_singleton.mpr ?_⟩
    · unfold Document.load
      rw [hformat.1]
      rfl
    · unfold Document.load
      rw [hformat.2]
      rfl
  have hloada := hload a (by simp)
  have hloadb := hload b (by simp)
  have ha : c.stops (withThreeFiles false).fileSystem a = false := by
    rw [← Bool.not_eq_true, Checker.stops_eq_true_iff hloada, not_not, hc]
    exact ⟨[], rfl⟩
  have hb : c.stops (withThreeFiles false).fileSystem b = true := by
    rw [Checker.stops_eq_true_iff hloadb, ne_eq, hc]
    rintro ⟨items, h⟩
    cases h
  refine ⟨?_, _, hloadb⟩
  unfold threePaths
  rw [List.findIdx?_cons, ha, List.findIdx?_cons, hb]
  rfl

/-- The number fails, whether or not the file behind it holds a document. -/
theorem runCheck_withThreeFiles :
    ∃ report, (runCheck (withThreeFiles false).fileSystem ⟨[0x73]⟩ ⟨[0x2e]⟩).outcome = .ok report ∧
      report.passed = false ∧ report.files.map FileReport.status = ["passed", "failed"] ∧
      (runCheck (withThreeFiles true).fileSystem ⟨[0x73]⟩ ⟨[0x2e]⟩).outcome = .ok report := by
  let shape : Shape := .clauses [.type .array]
  let c : Checker := ⟨⟨[0x73]⟩, shape.validator⟩
  have hchecker : ∀ closed,
      (Checker.load (withThreeFiles closed).fileSystem ⟨[0x73]⟩).outcome = .ok c := by
    intro closed
    have hfile : (SchemaFile.load (withThreeFiles closed).fileSystem ⟨[0x73]⟩).outcome =
        .ok ⟨⟨[0x73]⟩, shape.toJson⟩ := rfl
    exact Checker.outcome_load hfile (Shape.ofJson_toJson_eq_ok (.type .array))
  have hlists : ∀ v, c.validator.violations v = [] ↔ ∃ items, v = .array items := by
    intro v
    rw [Validator.violations_eq_nil_iff_admits]
    refine (Shape.admits_toSchema_iff (.type .array) v).trans ?_
    rw [Shape.Fits, List.forall_mem_singleton, Clause.Holds]
    rfl
  obtain ⟨hstops, document, hload⟩ := findIdx?_stops_withThreeFiles hlists
  obtain ⟨hfast, -, hrun⟩ := runCheck_failsFast (withThreeFiles false).fileSystem ⟨[0x73]⟩
  obtain ⟨houtcome, hreport, hsame⟩ :=
    (hrun c ⟨[0x2e]⟩ (hchecker false)).2 threePaths (files_withThreeFiles false)
  obtain ⟨reports, last, hreports, -, hpasses, -, hlast, -⟩ :=
    (hfast c threePaths).failed 1 _ document hstops rfl hload
  rw [hreports] at houtcome
  refine ⟨_, houtcome, (hreport _ houtcome).1.mpr ⟨last, by simp, hlast⟩, ?_, ?_⟩
  · obtain ⟨first, rest, hfirst, hrest, rfl⟩ := List.forall₂_cons_left_iff.mp hpasses
    obtain rfl := List.forall₂_nil_left_iff.mp hrest
    simp [hfirst.2, hlast]
  · have hreads : ∀ path ∈ threePaths.take 2, (withThreeFiles true).fileSystem.read path =
        (withThreeFiles false).fileSystem.read path :=
      List.forall_mem_cons.mpr ⟨rfl, List.forall_mem_singleton.mpr rfl⟩
    rw [hsame 1 _ hstops (hchecker true) (files_withThreeFiles true) hreads]
    exact houtcome

end Tree

end ConfigCheck
