import ConfigCheck.Proofs.Report.Account

/-!
# The two forms of a report

A report is written for readers and as JSON.  The text for readers says nothing of its own: it is
made from the account that is read back from the JSON text, together with the places in the file
system to which the paths lead (`ReportAccount.text`, `CheckReport.renderText_eq_text`).
-/

namespace ConfigCheck

open CommandLine

/-- The lines about a file: one if it has passed; else a header, its path, and a line for each
violation with its message. -/
def FileAccount.lines (fs : FileSystem) (f : FileAccount) : List String :=
  let path := (fs.resolved f.path).display
  if f.status = "passed" then ["OK: " ++ path]
  else ["Config File Check Failed:", "    File -> " ++ path] ++
    f.diagnostics.map fun d => "    ERROR -> " ++ d.message

/-- The line at the end, if all files have passed. -/
def ReportAccount.summary (a : ReportAccount) : List String :=
  if a.passed then
    [s!"{a.files.length} config file(s) passed schema check against {a.schema.display}"]
  else []

/-- The text for readers: the lines about the files, in order, and the line at the end. -/
def ReportAccount.text (fs : FileSystem) (a : ReportAccount) : String :=
  String.join ((a.files.flatMap (FileAccount.lines fs) ++ a.summary).map asLine)

/-! ## Files -/

/-- The lines about a file are made from what is said about it: the messages of its violations are
those of its diagnostics. -/
lemma FileReport.fileLines_eq_lines (fs : FileSystem) (r : FileReport) :
    fileLines fs r = r.account.lines fs := by
  have hmessages : (r.account.diagnostics.map fun d => "    ERROR -> " ++ d.message) =
      r.violations.map fun v => "    ERROR -> " ++ v.line := by
    show List.map _ (List.map _ (List.map _ r.violations)) = _
    rw [List.map_map, List.map_map]
    rfl
  unfold fileLines FileAccount.lines
  dsimp only
  rw [hmessages]
  cases hpassed : r.passed with
  | true =>
    have hstatus : r.account.status = "passed" := Checker.status_eq_passed_iff.mpr hpassed
    rw [if_pos rfl, if_pos hstatus]
    rfl
  | false =>
    have hstatus : ¬ r.account.status = "passed" := fun h => by
      rw [Checker.status_eq_passed_iff.mp h] at hpassed
      cases hpassed
    rw [if_neg Bool.false_ne_true, if_neg hstatus]
    rfl

/-- A file has passed and nothing is said against it, or it has failed and something is. -/
lemma FileReport.status_account_cases (r : FileReport) :
    r.account.status = "passed" ∧ r.account.diagnostics = [] ∨
      r.account.status = "failed" ∧ r.account.diagnostics ≠ [] := by
  cases hpassed : r.passed with
  | true =>
    have hdiagnostics := FileReport.diagnostics_of_passed hpassed
    refine .inl ⟨Checker.status_eq_passed_iff.mpr hpassed, ?_⟩
    show r.diagnostics.map Diagnostic.account = []
    rw [hdiagnostics, List.map_nil]
  | false =>
    refine .inr ⟨Checker.status_eq_failed_iff.mpr hpassed, fun hnil => ?_⟩
    have hviolations : r.violations = [] := List.map_eq_nil_iff.mp (List.map_eq_nil_iff.mp hnil)
    rw [FileReport.passed_iff.mpr hviolations] at hpassed
    cases hpassed

/-! ## Reports -/

namespace CheckReport

/-- The text for readers is made from what the report says. -/
lemma renderText_eq_text (fs : FileSystem) (r : CheckReport) :
    renderText fs r = r.account.text fs := by
  have hlines :
      r.files.flatMap (fileLines fs) = r.account.files.flatMap (FileAccount.lines fs) := by
    show _ = List.flatMap _ (List.map _ r.files)
    rw [List.flatMap_map]
    exact congrArg (fun f => r.files.flatMap f) (funext fun file => file.fileLines_eq_lines fs)
  have hsummary : summaryLines r = r.account.summary := by
    have hlength : r.account.files.length = r.files.length := List.length_map FileReport.account
    unfold summaryLines ReportAccount.summary
    rw [hlength]
    rfl
  rw [renderText, ReportAccount.text, hlines, hsummary]

/-- A report says that all files have passed if each of them is said to have. -/
lemma passed_account_iff (r : CheckReport) :
    r.account.passed = true ↔ ∀ file ∈ r.account.files, file.status = "passed" := by
  refine CheckReport.passed_iff.trans ?_
  show _ ↔ ∀ file ∈ r.files.map FileReport.account, file.status = "passed"
  rw [List.forall_mem_map]
  exact forall₂_congr fun _ _ => Checker.status_eq_passed_iff.symm

/-- In a report of a run every file before the last one is said to have passed. -/
lemma status_of_mem_dropLast {fs : FileSystem} {schema target : Path} {report : CheckReport}
    (hrun : (runCheck fs schema target).outcome = .ok report) :
    ∀ file ∈ report.account.files.dropLast, file.status = "passed" := by
  obtain ⟨c, files, reports, -, -, hreports, rfl⟩ := runCheck_eq_ok_iff.mp hrun
  show ∀ file ∈ (reports.map FileReport.account).dropLast, file.status = "passed"
  rw [← List.map_dropLast, List.forall_mem_map]
  exact fun file hfile => Checker.status_eq_passed_iff.mpr
    (Checker.passed_of_mem_dropLast hreports file hfile)

/-- The JSON text of a report of a run whose paths are UTF-8 decides its text for readers, up to
the places to which the paths lead.  From the account that is read back from it come a line for each
file that has passed, and the lines about a file that has failed, with one line for each of its
diagnostics; this is at most the last file, and it has a diagnostic.  The line at the end stands
exactly if the account says that all files have passed. -/
theorem renderText_of_renderJson {fs : FileSystem} {schema target : Path} {report : CheckReport}
    (hrun : (runCheck fs schema target).outcome = .ok report) (htext : report.HasTextPaths) :
    ∃ text value account, renderJson report = .ok text ∧ Json.read text = .ok value ∧
      ReportAccount.ofJson? value = some account ∧
      renderText fs report = account.text fs ∧
      (∀ file ∈ account.files.dropLast, file.status = "passed") ∧
      (∀ file ∈ account.files, file.status = "passed" ∧ file.diagnostics = [] ∨
        file.status = "failed" ∧ file.diagnostics ≠ []) ∧
      (account.passed = true ↔ ∀ file ∈ account.files, file.status = "passed") := by
  have hread := read_pretty_append hrun "\n" (by decide)
  refine ⟨_, _, report.account, renderJson_eq_ok_iff.mpr ⟨htext, rfl⟩, hread,
    ReportAccount.ofJson?_toJson htext, report.renderText_eq_text fs,
    status_of_mem_dropLast hrun, ?_, report.passed_account_iff⟩
  intro file hfile
  obtain ⟨r, -, rfl⟩ := List.mem_map.mp hfile
  exact r.status_account_cases

end CheckReport

/-- The text about the list and the number is made from what is read back. -/
theorem Tree.renderText_withThreeFiles :
    ∃ report, (runCheck (withThreeFiles false).fileSystem ⟨[0x73]⟩ ⟨[0x2e]⟩).outcome = .ok report ∧
      report.HasTextPaths ∧ ∃ text value account, renderJson report = .ok text ∧
        Json.read text = .ok value ∧ ReportAccount.ofJson? value = some account ∧
        renderText (withThreeFiles false).fileSystem report =
          account.text (withThreeFiles false).fileSystem := by
  obtain ⟨report, hrun, htext, -⟩ := exists_report_withThreeFiles
  obtain ⟨text, value, account, hrender, hread, haccount, hsame, -⟩ :=
    CheckReport.renderText_of_renderJson hrun htext
  exact ⟨report, hrun, htext, text, value, account, hrender, hread, haccount, hsame⟩

end ConfigCheck
