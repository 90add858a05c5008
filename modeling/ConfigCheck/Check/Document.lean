import ConfigCheck.Check.Error
import ConfigCheck.File.System

/-!
# Documents

A document is a file whose extension names a format, read in this format.  A file without content
and a file that holds nothing but null are no documents.
-/

namespace ConfigCheck

/-- A document that has been read. -/
structure Document where
  /-- The path, as given. -/
  path : Path
  /-- The format. -/
  format : Format
  /-- The content. -/
  value : Json
deriving Inhabited

namespace Document

/-- The document that content makes at a path. -/
def ofContent (path : Path) (format : Format) : Option Json → Except CheckError Document
  | none | some .null => .error (.emptyDocument path)
  | some value => .ok { path, format, value }

/-- Reads bytes in a format. -/
def ofBytes (path : Path) (format : Format) (bytes : List UInt8) : Checked Document :=
  match Utf8.decode? bytes with
  | none => .fail (.parseError path .notUtf8)
  | some text => do
    Logged.record ⟨.debug, "loaded config file",
      [("path", path.display), ("format", format.display), ("bytes", toString bytes.length)]⟩
    match format.read text with
    | .error e => .fail (.parseError path e)
    | .ok content => .ofExcept (ofContent path format content)

/-- Reads a document.  The format is settled before the file is looked at. -/
def load (fs : FileSystem) (path : Path) : Checked Document :=
  match Format.ofPath path with
  | .unsupported extension => .fail (.unsupportedFormat path extension)
  | format =>
    match fs.read path with
    | .error e => .fail (.io path e)
    | .ok bytes => ofBytes path format bytes

end Document

end ConfigCheck
