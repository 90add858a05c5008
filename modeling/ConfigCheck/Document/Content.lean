import ConfigCheck.Document.Format
import ConfigCheck.Json.Reader
import ConfigCheck.Text.Blank
import ConfigCheck.Yaml.Merge
import ConfigCheck.Yaml.Reader
import ConfigCheck.Yaml.ToJson

/-!
# The content of a document

A text is read as its format says, into one value type, so that nothing behind this point knows the
format.  A text without content has no value; a YAML text is known to have none if its lines are
blank, comments or document markers.
-/

namespace ConfigCheck

/-- Why the content of a file is refused. -/
inductive ContentError where
  /-- The bytes are not UTF-8. -/
  | notUtf8
  /-- The text is not JSON. -/
  | json (error : Json.ReadError)
  /-- The text is not a YAML document. -/
  | yaml (error : Yaml.Error)
  /-- A merge key of a YAML document cannot be applied. -/
  | merge (error : Yaml.MergeError)
  /-- A YAML document has no JSON counterpart. -/
  | conversion (error : Yaml.ConversionError)
  /-- The format of the file cannot be read. -/
  | unsupported (extension : String)
deriving Repr, Inhabited

/-- The reason that a bad encoding gives. -/
def notUtf8Reason : String := "not valid UTF-8: stream did not contain valid UTF-8"

/-- The text of a content error. -/
def ContentError.message : ContentError → String
  | .notUtf8 => notUtf8Reason
  | .json e => s!"invalid JSON: {e.message}"
  | .yaml e => s!"invalid YAML: {e.message}"
  | .merge e => s!"invalid YAML merge key: {e.message}"
  | .conversion e => e.message
  | .unsupported extension => s!"unsupported extension {Text.quote extension}"

/-- Whether a JSON text has no content. -/
def isBlankJson (text : String) : Bool := text.toList.all Text.isBlank

/-- Whether a line of a YAML text has no content: blank, a comment, or a document marker. -/
def isBlankYamlLine (line : List Char) : Bool :=
  let line := Text.trim line
  line = [] || line.head? = some '#' || line = ['-', '-', '-'] || line = ['.', '.', '.']

/-- Whether a YAML text has no content. -/
def isBlankYaml (text : String) : Bool := (Text.lines text.toList).all isBlankYamlLine

/-- The value of a YAML text. -/
def readYaml (text : String) : Except ContentError Json := do
  let n ← (Yaml.read text).mapError .yaml
  let n ← n.merge.mapError .merge
  n.toJson.mapError .conversion

/-- The value of a text, or none if it has no content. -/
def Format.read (format : Format) (text : String) : Except ContentError (Option Json) :=
  match format with
  | .json =>
    if isBlankJson text then .ok none else ((Json.read text).mapError .json).map some
  | .yaml => if isBlankYaml text then .ok none else (readYaml text).map some
  | .unsupported extension => .error (.unsupported extension)

end ConfigCheck
