import ConfigCheck.Check.Error
import ConfigCheck.File.System

/-!
# Schema files

A schema is read from a file of any name, always as JSON, and then taken for a schema.
-/

namespace ConfigCheck

/-- A JSON value that has been read as a schema, but not yet taken for one. -/
structure SchemaFile where
  /-- The path, as given. -/
  path : Path
  /-- The value. -/
  value : Json
deriving Inhabited

namespace SchemaFile

/-- The identifier that the schema declares. -/
def id? (s : SchemaFile) : Option String := Schema.textOf? s.value.members "$id"

/-- The JSON value of a text that has these bytes. -/
def readValue (bytes : List UInt8) : Except SchemaTextError Json :=
  match Utf8.decode? bytes with
  | none => .error .notUtf8
  | some text => (Json.read text).mapError .json

/-- Reads a schema file. -/
def load (fs : FileSystem) (path : Path) : Checked SchemaFile :=
  if !fs.isRegular path then .fail (.schemaNotFound path)
  else
    match fs.read path with
    | .error e => .fail (.io path e)
    | .ok bytes =>
      match readValue bytes with
      | .error e => .fail (.schemaParseError path e)
      | .ok value => do
        Logged.record ⟨.debug, "loaded schema", [("path", path.display)]⟩
        return { path, value }

/-- Takes the value for a schema. -/
def compile (s : SchemaFile) : Checked Validator :=
  match Validator.ofJson s.value with
  | .error e => .fail (.schemaCompileError s.path e)
  | .ok validator => do
    Logged.record ⟨.debug, "compiled schema",
      [("path", s.path.display), ("id", Text.quote (s.id?.getD "-"))]⟩
    return validator

end SchemaFile

end ConfigCheck
