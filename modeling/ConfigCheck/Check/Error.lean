import ConfigCheck.Document.Content
import ConfigCheck.File.Error
import ConfigCheck.Report.Log
import ConfigCheck.Report.Violation
import ConfigCheck.Schema.Validator

/-!
# Why a check is given up

Every error is about one path and keeps its cause.  It has two texts: the message that users see,
and the detail that a log shows, with the name of the error and its parts.
-/

namespace ConfigCheck

/-- Why a text is not taken for the text of a schema. -/
inductive SchemaTextError where
  /-- The bytes are not UTF-8. -/
  | notUtf8
  /-- The text is not JSON. -/
  | json (error : Json.ReadError)
deriving Repr, Inhabited

/-- The error in words. -/
def SchemaTextError.message : SchemaTextError → String
  | notUtf8 => notUtf8Reason
  | json e => e.message

/-- Why a check is given up. -/
inductive CheckError where
  /-- The path of the schema leads to no file. -/
  | schemaNotFound (path : Path)
  /-- The file holds no JSON text. -/
  | schemaParseError (path : Path) (cause : SchemaTextError)
  /-- The JSON value is no usable schema. -/
  | schemaCompileError (path : Path) (cause : Schema.CompileError)
  /-- The target leads nowhere. -/
  | targetNotFound (path : Path)
  /-- The target is neither a file nor a directory. -/
  | invalidTargetType (path : Path)
  /-- The directory has no file that could be checked. -/
  | noEligibleFiles (path : Path)
  /-- The extension belongs to no format. -/
  | unsupportedFormat (path : Path) (extension : String)
  /-- The content of the file is refused. -/
  | parseError (path : Path) (cause : ContentError)
  /-- The file has no content, or its content is null. -/
  | emptyDocument (path : Path)
  /-- The document violates the schema. -/
  | validationFailed (path : Path) (violations : List Violation)
  /-- The path cannot be read. -/
  | io (path : Path) (cause : FileError)
deriving Repr, Inhabited

namespace CheckError

/-- The path that the error is about. -/
def path : CheckError → Path
  | schemaNotFound path | schemaParseError path _ | schemaCompileError path _
  | targetNotFound path | invalidTargetType path | noEligibleFiles path
  | unsupportedFormat path _ | parseError path _ | emptyDocument path
  | validationFailed path _ | io path _ => path

/-- The name of the error. -/
def name : CheckError → String
  | schemaNotFound _ => "SchemaNotFound"
  | schemaParseError _ _ => "SchemaParseError"
  | schemaCompileError _ _ => "SchemaCompileError"
  | targetNotFound _ => "TargetNotFound"
  | invalidTargetType _ => "InvalidTargetType"
  | noEligibleFiles _ => "NoEligibleFiles"
  | unsupportedFormat _ _ => "UnsupportedFormat"
  | parseError _ _ => "ParseError"
  | emptyDocument _ => "EmptyDocument"
  | validationFailed _ _ => "ValidationFailed"
  | io _ _ => "Io"

/-- The error in words, with the text `shown` for its path. -/
def messageAt (shown : String) : CheckError → String
  | schemaNotFound _ => s!"schema file {shown} does not exist"
  | schemaParseError _ cause => s!"failed to parse schema file {shown}: {cause.message}"
  | schemaCompileError _ cause => s!"failed to compile schema {shown}: {cause.message}"
  | targetNotFound _ => s!"specified target {shown} does not exist"
  | invalidTargetType _ => s!"specified target {shown} is neither a file nor a directory"
  | noEligibleFiles _ => s!"no eligible files (.json, .yaml, .yml) found in {shown}"
  | unsupportedFormat _ extension =>
    s!"unsupported file format {Text.quote extension} for {shown}"
  | parseError _ cause => s!"failed to parse config file {shown}: {cause.message}"
  | emptyDocument _ => s!"config file {shown} is empty"
  | validationFailed _ violations =>
    s!"config file {shown} failed validation with {violations.length} violation(s)"
  | io _ cause => s!"failed to read {shown}: {cause.message}"

/-- The error in words, with its path as given. -/
def message (e : CheckError) : String := e.messageAt e.path.display

/-- What the error has besides its path, as it is shown in a log. -/
def causeFields : CheckError → List (String × String)
  | schemaParseError _ cause => [("reason", Text.quote cause.message)]
  | schemaCompileError _ cause => [("reason", Text.quote cause.message)]
  | unsupportedFormat _ extension => [("extension", Text.quote extension)]
  | parseError _ cause => [("reason", Text.quote cause.message)]
  | validationFailed _ violations =>
    [("violations", Text.list (violations.map Violation.detail))]
  | io _ cause => [("source", cause.detail)]
  | schemaNotFound _ | targetNotFound _ | invalidTargetType _ | noEligibleFiles _
  | emptyDocument _ => []

/-- The error with all its parts, as it is shown in a log. -/
def detail (e : CheckError) : String :=
  Text.record e.name (("path", e.path.quoted) :: e.causeFields)

end CheckError

/-- A computation that may give up a check and keeps a log. -/
abbrev Checked (α : Type) := Logged CheckError α

end ConfigCheck
