import ConfigCheck.Check.Error
import ConfigCheck.Report.Diagnostic

/-!
# Reports

The report on a file keeps its violations; it has passed if there is none.  The report on a target
holds those on its files, in order.
-/

namespace ConfigCheck

/-- The report on a file. -/
structure FileReport where
  /-- The path, as given. -/
  path : Path
  /-- The format. -/
  format : Format
  /-- All violations, in order. -/
  violations : List Violation
deriving Inhabited

namespace FileReport

/-- Whether the file has no violation. -/
def passed (r : FileReport) : Bool := r.violations.isEmpty

/-- The state of the file in words. -/
def status (r : FileReport) : String := if r.passed then "passed" else "failed"

/-- The violations as they are reported. -/
def diagnostics (r : FileReport) : List Diagnostic := ConfigCheck.diagnostics r.violations

/-- The error that the report stands for, if the file has not passed. -/
def result (r : FileReport) : Except CheckError FileReport :=
  if r.passed then .ok r else .error (.validationFailed r.path r.violations)

/-- The report as a value. -/
def toJson (r : FileReport) : Json :=
  .object
    [("path", .string r.path.display),
     ("format", r.format.toJson),
     ("status", .string r.status),
     ("diagnostics", .array (r.diagnostics.map Diagnostic.toJson))]

end FileReport

/-- The report on a target. -/
structure CheckReport where
  /-- The path of the schema, as given. -/
  schema : Path
  /-- The target, as given. -/
  target : Path
  /-- The reports on the files that have been checked. -/
  files : List FileReport
deriving Inhabited

namespace CheckReport

/-- Whether all files have passed. -/
def passed (r : CheckReport) : Bool := r.files.all FileReport.passed

/-- The first file that has not passed. -/
def failure? (r : CheckReport) : Option FileReport := r.files.find? fun f => !f.passed

/-- The report as a value. -/
def toJson (r : CheckReport) : Json :=
  .object
    [("schema", .string r.schema.display),
     ("target", .string r.target.display),
     ("files", .array (r.files.map FileReport.toJson)),
     ("passed", .bool r.passed)]

/-- The paths of the report with their places in its value, in the order in which they are
written. -/
def paths (r : CheckReport) : List (List Json.Segment × Path) :=
  [([.key "schema"], r.schema), ([.key "target"], r.target)] ++
    r.files.zipIdx.map fun (f, i) => ([.key "files", .index i, .key "path"], f.path)

end CheckReport

end ConfigCheck
