import ConfigCheck.Check.Checker
import ConfigCheck.File.Tree
import ConfigCheck.Proofs.Document.Load
import ConfigCheck.Proofs.Shape.Compile
import Mathlib.Data.List.Forall2

/-!
# The gate

A target passes if the schema is usable, the target names files, and each of these files is a
document without violations.  The report on a target that passes has one entry for each file, in
order, and no entry of it has failed (`runCheck_passed_iff`).

The steps in between are read off the outcomes: what `Document.load` gives back carries the path it
was asked for (`Document.path_of_load`), a target never names an empty list of files
(`Target.files_ne_nil`), and a list of reports without a failure has one report for each file
(`Checker.checkFiles_passed_iff`).
-/

namespace ConfigCheck

namespace Document

/-- Content makes a document at the path where it was found. -/
lemma path_of_ofContent {path : Path} {format : Format} {content : Option Json}
    {document : Document} (h : ofContent path format content = .ok document) :
    document.path = path := by
  unfold ofContent at h
  split at h
  · cases h
  · cases h
  · cases h
    rfl

/-- Bytes make a document at the path where they were found. -/
lemma path_of_ofBytes {path : Path} {format : Format} {bytes : List UInt8} {document : Document}
    (h : (ofBytes path format bytes).outcome = .ok document) : document.path = path := by
  unfold ofBytes at h
  split at h
  · cases h
  · rw [Logged.outcome_bind, Logged.outcome_record] at h
    simp only [bind, Except.bind] at h
    split at h
    · cases h
    · exact path_of_ofContent h

/-- A document keeps the path from which it was read. -/
theorem path_of_load {fs : FileSystem} {path : Path} {document : Document}
    (h : (load fs path).outcome = .ok document) : document.path = path := by
  unfold load at h
  split at h
  · cases h
  · split at h
    · cases h
    · exact path_of_ofBytes h

end Document

/-- The files of a target are never none: a directory without files to check is an error. -/
theorem Target.files_ne_nil {fs : FileSystem} {target : Path} {files : List Path}
    (h : (Target.files fs target).outcome = .ok files) : files ≠ [] := by
  unfold Target.files at h
  split at h
  · cases h
  · cases h
  · rw [Logged.outcome_ofExcept] at h
    unfold Target.ofFile at h
    split at h
    · cases h
    · cases h
      exact List.cons_ne_nil _ _
  · unfold Target.ofDirectory at h
    split at h
    · cases h
    · split at h
      · cases h
      · rename_i hne
        cases h
        exact hne
  · cases h

namespace FileReport

/-- A file passes if it has no violation. -/
lemma passed_iff {report : FileReport} : report.passed = true ↔ report.violations = [] := by
  unfold passed
  exact List.isEmpty_iff

/-- A file that has passed says so. -/
lemma status_of_passed {report : FileReport} (h : report.passed = true) :
    report.status = "passed" := by
  unfold status
  rw [if_pos h]

/-- A file that has passed has nothing to report. -/
lemma diagnostics_of_passed {report : FileReport} (h : report.passed = true) :
    report.diagnostics = [] := by
  unfold diagnostics ConfigCheck.diagnostics
  rw [passed_iff.mp h]
  rfl

end FileReport

namespace Checker

/-- A schema file that holds a usable schema gives a checker. -/
lemma outcome_load {fs : FileSystem} {path : Path} {file : SchemaFile} {validator : Validator}
    (hfile : (SchemaFile.load fs path).outcome = .ok file)
    (hvalidator : Validator.ofJson file.value = .ok validator) :
    (load fs path).outcome = .ok ⟨path, validator⟩ := by
  have hcompile : file.compile.outcome = .ok validator := by
    unfold SchemaFile.compile
    rw [hvalidator]
    rfl
  unfold load
  rw [Logged.outcome_bind, hfile]
  change (file.compile >>= _).outcome = _
  rw [Logged.outcome_bind, hcompile]
  rfl

/-- A file has a report that has passed if it holds a document without violations. -/
lemma checkFile_passed_iff {c : Checker} {fs : FileSystem} {path : Path} {report : FileReport} :
    ((c.checkFile fs path).outcome = .ok report ∧ report.passed = true) ↔
      ∃ document, (Document.load fs path).outcome = .ok document ∧
        c.report document = report ∧ c.validator.violations document.value = [] := by
  rw [outcome_checkFile, bind_eq_ok_iff]
  constructor
  · rintro ⟨⟨document, hload, hreport⟩, hpassed⟩
    cases hreport
    exact ⟨document, hload, rfl, FileReport.passed_iff.mp hpassed⟩
  · rintro ⟨document, hload, rfl, hvalid⟩
    exact ⟨⟨document, hload, rfl⟩, FileReport.passed_iff.mpr hvalid⟩

/-- The report on a file is about this file. -/
lemma path_of_checkFile {c : Checker} {fs : FileSystem} {path : Path} {report : FileReport}
    (h : (c.checkFile fs path).outcome = .ok report) : report.path = path := by
  rw [outcome_checkFile, bind_eq_ok_iff] at h
  obtain ⟨document, hload, hreport⟩ := h
  cases hreport
  exact Document.path_of_load hload

/-- The reports on a list of files have all passed if there is one for each file, in order, that
has passed: the check then stops at no file before the last. -/
theorem checkFiles_passed_iff {c : Checker} {fs : FileSystem} {paths : List Path}
    {reports : List FileReport} :
    ((c.checkFiles fs paths).outcome = .ok reports ∧ ∀ report ∈ reports, report.passed = true) ↔
      List.Forall₂ (fun path report =>
        (c.checkFile fs path).outcome = .ok report ∧ report.passed = true) paths reports := by
  induction paths generalizing reports with
  | nil =>
    rw [outcome_checkFiles_nil, List.forall₂_nil_left_iff]
    constructor
    · rintro ⟨h, -⟩
      cases h
      rfl
    · rintro rfl
      exact ⟨rfl, by simp⟩
  | cons path rest ih =>
    rw [outcome_checkFiles_cons, bind_eq_ok_iff, List.forall₂_cons_left_iff]
    constructor
    · rintro ⟨⟨report, hfile, hrest⟩, hall⟩
      split at hrest
      · rename_i hpassed
        obtain ⟨others, hothers, hreports⟩ := bind_eq_ok_iff.mp hrest
        cases hreports
        have hpass : ∀ other ∈ others, other.passed = true := fun other hmem =>
          hall other (List.mem_cons_of_mem _ hmem)
        exact ⟨report, others, ⟨hfile, hpassed⟩, ih.mp ⟨hothers, hpass⟩, rfl⟩
      · rename_i hfailed
        cases hrest
        exact absurd (hall report (List.mem_singleton_self report)) hfailed
    · rintro ⟨report, others, ⟨hfile, hpassed⟩, hothers, rfl⟩
      obtain ⟨hrest, hpass⟩ := ih.mpr hothers
      refine ⟨⟨report, hfile, ?_⟩, ?_⟩
      · rw [if_pos hpassed, hrest]
        rfl
      · intro other hmem
        rcases List.mem_cons.mp hmem with rfl | hmem
        · exact hpassed
        · exact hpass other hmem

/-- Some reports on a list of files have all passed if each file holds a document without
violations. -/
theorem exists_checkFiles_passed_iff {c : Checker} {fs : FileSystem} {paths : List Path} :
    (∃ reports, (c.checkFiles fs paths).outcome = .ok reports ∧
        ∀ report ∈ reports, report.passed = true) ↔
      ∀ path ∈ paths, ∃ document, (Document.load fs path).outcome = .ok document ∧
        c.validator.violations document.value = [] := by
  constructor
  · rintro ⟨reports, h⟩
    have hpairs := checkFiles_passed_iff.mp h
    clear h
    induction hpairs with
    | nil => simp
    | cons hfile _ ih =>
      obtain ⟨document, hload, -, hvalid⟩ := checkFile_passed_iff.mp hfile
      exact List.forall_mem_cons.mpr ⟨⟨document, hload, hvalid⟩, ih⟩
  · intro h
    have hpairs : ∃ reports, List.Forall₂ (fun path report =>
        (c.checkFile fs path).outcome = .ok report ∧ report.passed = true) paths reports := by
      induction paths with
      | nil => exact ⟨[], .nil⟩
      | cons path rest ih =>
        obtain ⟨⟨document, hload, hvalid⟩, hrest⟩ := List.forall_mem_cons.mp h
        obtain ⟨reports, hreports⟩ := ih hrest
        have hfile := checkFile_passed_iff.mpr ⟨document, hload, rfl, hvalid⟩
        exact ⟨c.report document :: reports, .cons hfile hreports⟩
    obtain ⟨reports, hreports⟩ := hpairs
    exact ⟨reports, checkFiles_passed_iff.mpr hreports⟩

end Checker

/-- A report on a target comes from a usable schema, the files of the target and the reports on
them. -/
lemma runCheck_eq_ok_iff {fs : FileSystem} {schema target : Path} {report : CheckReport} :
    (runCheck fs schema target).outcome = .ok report ↔
      ∃ checker files reports, (Checker.load fs schema).outcome = .ok checker ∧
        (Target.files fs target).outcome = .ok files ∧
        (checker.checkFiles fs files).outcome = .ok reports ∧
        report = { schema, target, files := reports } := by
  rw [outcome_runCheck]
  simp only [bind_eq_ok_iff, Except.ok.injEq]
  constructor
  · rintro ⟨checker, hchecker, files, hfiles, reports, hreports, rfl⟩
    exact ⟨checker, files, reports, hchecker, hfiles, hreports, rfl⟩
  · rintro ⟨checker, files, reports, hchecker, hfiles, hreports, rfl⟩
    exact ⟨checker, hchecker, files, hfiles, reports, hreports, rfl⟩

/-- The report on a target has passed if those on its files have. -/
lemma CheckReport.passed_iff {report : CheckReport} :
    report.passed = true ↔ ∀ file ∈ report.files, file.passed = true := by
  unfold CheckReport.passed
  exact List.all_eq_true

/-- A target passes exactly if the schema is usable, the target names files, and each of them holds
a document without violations.  The report then has an entry for each file, in order, that has
passed and reports nothing. -/
theorem runCheck_passed_iff (fs : FileSystem) (schema target : Path) :
    ((∃ report, (runCheck fs schema target).outcome = .ok report ∧ report.passed = true) ↔
      ∃ checker files, (Checker.load fs schema).outcome = .ok checker ∧
        (Target.files fs target).outcome = .ok files ∧
        ∀ path ∈ files, ∃ document, (Document.load fs path).outcome = .ok document ∧
          checker.validator.violations document.value = []) ∧
    ∀ report files, (runCheck fs schema target).outcome = .ok report → report.passed = true →
      (Target.files fs target).outcome = .ok files →
        files ≠ [] ∧ report.files.map FileReport.path = files ∧
          (∀ file ∈ report.files, file.status = "passed" ∧ file.diagnostics = []) ∧
          report.failure? = none := by
  constructor
  · constructor
    · rintro ⟨report, hrun, hpassed⟩
      obtain ⟨checker, files, reports, hchecker, hfiles, hreports, rfl⟩ :=
        runCheck_eq_ok_iff.mp hrun
      refine ⟨checker, files, hchecker, hfiles, ?_⟩
      exact Checker.exists_checkFiles_passed_iff.mp
        ⟨reports, hreports, CheckReport.passed_iff.mp hpassed⟩
    · rintro ⟨checker, files, hchecker, hfiles, hvalid⟩
      obtain ⟨reports, hreports, hpassed⟩ := Checker.exists_checkFiles_passed_iff.mpr hvalid
      refine ⟨{ schema, target, files := reports }, ?_, CheckReport.passed_iff.mpr hpassed⟩
      exact runCheck_eq_ok_iff.mpr ⟨checker, files, reports, hchecker, hfiles, hreports, rfl⟩
  · intro report files hrun hpassed hfiles
    obtain ⟨checker, files', reports, hchecker, hfiles', hreports, rfl⟩ :=
      runCheck_eq_ok_iff.mp hrun
    cases hfiles.symm.trans hfiles'
    have hpass : ∀ file ∈ reports, file.passed = true := CheckReport.passed_iff.mp hpassed
    have hpairs := Checker.checkFiles_passed_iff.mp ⟨hreports, hpass⟩
    have hpaths : reports.map FileReport.path = files := by
      clear hreports hfiles hfiles' hrun hpassed hpass
      induction hpairs with
      | nil => rfl
      | cons hfile _ ih => rw [List.map_cons, ih, Checker.path_of_checkFile hfile.1]
    refine ⟨Target.files_ne_nil hfiles, hpaths, ?_, ?_⟩
    · intro file hmem
      exact ⟨FileReport.status_of_passed (hpass file hmem),
        FileReport.diagnostics_of_passed (hpass file hmem)⟩
    · refine List.find?_eq_none.mpr fun file hmem => ?_
      simp [hpass file hmem]

namespace Tree

/-- A directory with the schema `true` in the file `s` and an empty list in the file `a.json`. -/
def withOpenSchema : Tree where
  root := .directory [(⟨[0x73], by decide⟩, .regular (.ok [0x74, 0x72, 0x75, 0x65])),
    (⟨[0x61, 0x2e, 0x6a, 0x73, 0x6f, 0x6e], by decide⟩, .regular (.ok [0x5b, 0x5d]))]
  here := []

/-- The schema `true` lets the list pass. -/
theorem runCheck_withOpenSchema :
    ∃ report, (runCheck withOpenSchema.fileSystem ⟨[0x73]⟩
        ⟨[0x61, 0x2e, 0x6a, 0x73, 0x6f, 0x6e]⟩).outcome = .ok report ∧ report.passed = true ∧
      report.files.map FileReport.path = [⟨[0x61, 0x2e, 0x6a, 0x73, 0x6f, 0x6e]⟩] ∧
      report.failure? = none := by
  let schema : Path := ⟨[0x73]⟩
  let target : Path := ⟨[0x61, 0x2e, 0x6a, 0x73, 0x6f, 0x6e]⟩
  have hformat : Format.ofPath target = .json := Format.ofPath_eq_json (by decide)
  have hchecker : (Checker.load withOpenSchema.fileSystem schema).outcome =
      .ok ⟨schema, (Shape.always true).validator⟩ := by
    have hfile : (SchemaFile.load withOpenSchema.fileSystem schema).outcome =
        .ok ⟨schema, .bool true⟩ := rfl
    exact Checker.outcome_load hfile (Shape.ofJson_toJson_eq_ok (.always true))
  have hfiles : (Target.files withOpenSchema.fileSystem target).outcome = .ok [target] := by
    have hkind : withOpenSchema.fileSystem.kind target = .ok .regular := rfl
    unfold Target.files
    rw [hkind]
    dsimp only
    unfold Target.ofFile
    rw [hformat]
    rfl
  have hload : (Document.load withOpenSchema.fileSystem target).outcome =
      .ok ⟨target, .json, .array []⟩ := by
    unfold Document.load
    rw [hformat]
    rfl
  have hvalid : (Shape.always true).validator.violations (.array []) = [] :=
    Validator.violations_eq_nil_iff_admits.mpr (Schema.admits_always.mpr rfl)
  have hgate := runCheck_passed_iff withOpenSchema.fileSystem schema target
  obtain ⟨report, hrun, hpassed⟩ := hgate.1.mpr ⟨_, _, hchecker, hfiles,
    List.forall_mem_singleton.mpr ⟨_, hload, hvalid⟩⟩
  obtain ⟨-, hpaths, -, hfailure⟩ := hgate.2 report [target] hrun hpassed hfiles
  exact ⟨report, hrun, hpassed, hpaths, hfailure⟩

end Tree

end ConfigCheck
