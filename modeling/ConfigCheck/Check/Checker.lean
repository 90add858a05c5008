import ConfigCheck.Check.Document
import ConfigCheck.Check.Report
import ConfigCheck.Check.SchemaFile
import ConfigCheck.Check.Target

/-!
# Checking

A checker is a schema that is ready for use.  It checks files one after the other and stops behind
the first one that does not pass; a file that cannot be read as a document gives up the check.  The
outcomes are those of the steps (`Checker.outcome_checkFile`, `Checker.outcome_checkFiles_cons`,
`outcome_runCheck`).
-/

namespace ConfigCheck

/-- A schema that is ready for use. -/
structure Checker where
  /-- The path of the schema, as given. -/
  schemaPath : Path
  /-- The schema. -/
  validator : Validator

namespace Checker

/-- The checker for a schema file. -/
def load (fs : FileSystem) (schema : Path) : Checked Checker := do
  let file ← SchemaFile.load fs schema
  let validator ← file.compile
  return { schemaPath := schema, validator }

/-- The checker as it is shown in a log. -/
def detail (c : Checker) : String :=
  let validator := Text.openRecord "CompiledValidator" [("schema_path", c.schemaPath.quoted)]
  Text.record "Checker" [("validator", validator)]

/-- The report on a document. -/
def report (c : Checker) (document : Document) : FileReport where
  path := document.path
  format := document.format
  violations := c.validator.violations document.value

/-- Checks a file. -/
def checkFile (c : Checker) (fs : FileSystem) (path : Path) : Checked FileReport := do
  let document ← Document.load fs path
  let report := c.report document
  Logged.record ⟨.info, "checked config file",
    [("path", path.display), ("violations", toString report.violations.length)]⟩
  return report

/-- Checks files in order, up to the first one that does not pass. -/
def checkFiles (c : Checker) (fs : FileSystem) : List Path → Checked (List FileReport)
  | [] => pure []
  | path :: rest => do
    let report ← c.checkFile fs path
    if report.passed then return report :: (← c.checkFiles fs rest) else return [report]

/-- The report on a file is that on the document in it. -/
theorem outcome_checkFile (c : Checker) (fs : FileSystem) (path : Path) :
    (c.checkFile fs path).outcome =
      (Document.load fs path).outcome >>= fun document => .ok (c.report document) := by
  simp only [checkFile, Logged.outcome_bind, Logged.outcome_record]
  rfl

/-- Nothing is checked if there is no file. -/
@[simp] theorem outcome_checkFiles_nil (c : Checker) (fs : FileSystem) :
    (c.checkFiles fs []).outcome = .ok [] := rfl

/-- The files behind the first one count only if it passes. -/
theorem outcome_checkFiles_cons (c : Checker) (fs : FileSystem) (path : Path) (rest : List Path) :
    (c.checkFiles fs (path :: rest)).outcome =
      (c.checkFile fs path).outcome >>= fun report =>
        if report.passed then
          (c.checkFiles fs rest).outcome >>= fun reports => .ok (report :: reports)
        else .ok [report] := by
  simp only [checkFiles, Logged.outcome_bind]
  congr
  funext report
  split <;> simp [pure]

end Checker

/-- Checks a target against a schema. -/
def runCheck (fs : FileSystem) (schema target : Path) : Checked CheckReport := do
  let checker ← Checker.load fs schema
  let files ← Target.files fs target
  let reports ← checker.checkFiles fs files
  return { schema, target, files := reports }

/-- The schema comes first, then the target, then its files. -/
theorem outcome_runCheck (fs : FileSystem) (schema target : Path) :
    (runCheck fs schema target).outcome = (do
      let checker ← (Checker.load fs schema).outcome
      let files ← (Target.files fs target).outcome
      let reports ← (checker.checkFiles fs files).outcome
      .ok { schema, target, files := reports }) := by
  simp [runCheck]

end ConfigCheck
