import ConfigCheck.File.Path
import ConfigCheck.Json.Value

/-!
# Document formats

The format of a document is chosen by the extension of its file name alone, without regard to the
case of ASCII letters.
-/

namespace ConfigCheck

/-- The format of a document. -/
inductive Format where
  /-- Strict JSON. -/
  | json
  /-- YAML. -/
  | yaml
  /-- Any other extension, as found; empty if there is none or it is not UTF-8. -/
  | unsupported (extension : String)
deriving DecidableEq, Repr, Inhabited

namespace Format

/-- The small form of an ASCII letter. -/
def lowerByte (b : UInt8) : UInt8 := if 0x41 ≤ b && b ≤ 0x5a then b + 0x20 else b

/-- The format that an extension stands for. -/
def ofExtension (extension : List UInt8) : Format :=
  let lower := extension.map lowerByte
  if lower = Utf8.encode "json" then .json
  else if lower = Utf8.encode "yaml" || lower = Utf8.encode "yml" then .yaml
  else .unsupported ((Utf8.decode? extension).getD "")

/-- The format of the document at a path. -/
def ofPath (p : Path) : Format := ofExtension (p.extension?.getD [])

/-- Whether documents of the format can be loaded. -/
def isSupported : Format → Bool
  | .unsupported _ => false
  | _ => true

/-- The name of the format. -/
def display : Format → String
  | .json => "json"
  | .yaml => "yaml"
  | .unsupported extension => s!"unsupported ({extension})"

/-- The format in a report. -/
def toJson : Format → Json
  | .json => .string "json"
  | .yaml => .string "yaml"
  | .unsupported extension => .object [("unsupported", .string extension)]

end Format

end ConfigCheck
