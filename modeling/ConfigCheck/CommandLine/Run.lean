import ConfigCheck.Check.Checker
import ConfigCheck.CommandLine.Arguments
import ConfigCheck.Json.Printer

/-!
# Running a command line

A run has an exit code, a text for standard output, and for standard error the lines of the log
that are shown and, if the check is given up, one message.  The exit code is 0 exactly if a report
has been made and all files have passed.
-/

namespace ConfigCheck.CommandLine

/-- What a check leaves behind. -/
structure CheckRun where
  /-- The exit code. -/
  code : Nat
  /-- The report as it is written. -/
  stdout : String
  /-- Why the check has been given up; empty if it has not. -/
  complaint : String
  /-- The log. -/
  log : List Log.Record
deriving Repr, Inhabited

/-- The message about an error.  The path of a file that could be looked at is shown from the
root; other paths are shown as given. -/
def describe (fs : FileSystem) (e : CheckError) : String :=
  match e with
  | .parseError path _ | .emptyDocument path | .unsupportedFormat path _ | .io path _ =>
    e.messageAt (fs.resolved path).display
  | _ => e.message

/-- A text on a line of its own. -/
def asLine (text : String) : String := text ++ "\n"

/-- The lines about a file. -/
def fileLines (fs : FileSystem) (r : FileReport) : List String :=
  let path := (fs.resolved r.path).display
  if r.passed then ["OK: " ++ path]
  else ["Config File Check Failed:", "    File -> " ++ path] ++
    r.violations.map fun v => "    ERROR -> " ++ v.line

/-- The line at the end of a report, if all files have passed. -/
def summaryLines (r : CheckReport) : List String :=
  if r.passed then
    [s!"{r.files.length} config file(s) passed schema check against {r.schema.display}"]
  else []

/-- The report in lines. -/
def renderText (fs : FileSystem) (r : CheckReport) : String :=
  String.join ((r.files.flatMap (fileLines fs) ++ summaryLines r).map asLine)

/-- Why a report cannot be written as JSON. -/
def unwritablePath : String := "failed to write report: path contains invalid UTF-8 characters"

/-- The report as JSON, or what has been written of it up to the first path that is not UTF-8. -/
def renderJson (r : CheckReport) : Except String String :=
  match r.paths.find? fun (_, path) => path.text?.isNone with
  | none => .ok (asLine r.toJson.pretty)
  | some (place, _) => .error (r.toJson.prettyBefore place)

/-- Checks and writes the report. -/
def check (fs : FileSystem) (s : Settings) : CheckRun :=
  let result := runCheck fs s.schema s.target
  let log := ⟨.debug, "starting config check",
    [("schema", s.schema.display), ("target", s.target.display)]⟩ :: result.log
  match result.outcome with
  | .error e =>
    { code := 1, stdout := "", complaint := asLine ("ERROR: " ++ describe fs e)
      log := log ++ [⟨.debug, "check aborted", [("error", e.detail)]⟩] }
  | .ok report =>
    let code := if report.passed then 0 else 1
    match s.format with
    | .text => { code, stdout := renderText fs report, complaint := "", log }
    | .json =>
      match renderJson report with
      | .ok text => { code, stdout := text, complaint := "", log }
      | .error written =>
        { code := 1, stdout := written, complaint := ""
          log := log ++ [⟨.error, unwritablePath, []⟩] }

/-- What a run of the program leaves behind. -/
structure ProgramRun where
  /-- The exit code. -/
  code : Nat
  /-- The text on standard output. -/
  stdout : String
  /-- The text on standard error. -/
  stderr : String
deriving DecidableEq, Repr, Inhabited

/-- The text on standard error. -/
def CheckRun.stderr (r : CheckRun) (verbosity : Nat) : String :=
  String.join ((Log.lines verbosity r.log).map asLine) ++ r.complaint

/-- Runs the program. -/
def run (fs : FileSystem) (arguments : List String) : ProgramRun :=
  match readArguments arguments with
  | .ok s =>
    let r := check fs s
    { code := r.code, stdout := r.stdout, stderr := r.stderr s.verbosity }
  | .error (.wrong e) => { code := 2, stdout := "", stderr := e.message }
  | .error (.help long) => { code := 0, stdout := helpText long, stderr := "" }
  | .error .version => { code := 0, stdout := versionText, stderr := "" }

end ConfigCheck.CommandLine
