import ConfigCheck.CommandLine.Run

/-!
# The program

Looks at the files that a command line names, then runs the check on what has been seen.  All that
the check observes is collected first: the schema, the target and, if it is a directory, its
entries.
-/

namespace ConfigCheck.Program

/-- What has been seen of a path. -/
structure Sight where
  /-- The path. -/
  path : Path
  /-- What it leads to. -/
  kind : Except FileError FileKind
  /-- The content of a file. -/
  content : Except FileError (List UInt8)
  /-- The entries of a directory. -/
  entries : Except FileError (List Name)
  /-- The path from the root. -/
  canonical : Except FileError Path

/-- What has been seen of one part of a path. -/
def lookUp {α : Type} (seen : List Sight) (part : Sight → Except FileError α) (path : Path) :
    Except FileError α :=
  match seen.find? fun s => decide (s.path = path) with
  | some s => part s
  | none => .error .missing

/-- The file system of which this has been seen. -/
def fileSystemOf (seen : List Sight) : FileSystem where
  kind := lookUp seen Sight.kind
  read := lookUp seen Sight.content
  entries := lookUp seen Sight.entries
  canonical := lookUp seen Sight.canonical

/-- The number of an error, which some functions of the system give as a negative one. -/
def codeOf (code : UInt32) : Nat :=
  if code.toNat < 2 ^ 31 then code.toNat else 2 ^ 32 - code.toNat

/-- The error with the number and the text that the system gives. -/
def fileErrorOf : IO.Error → FileError
  | .noFileOrDirectory _ code text | .interrupted _ code text => .ofCode (codeOf code) text
  | .alreadyExists _ code text | .invalidArgument _ code text | .permissionDenied _ code text
  | .resourceExhausted _ code text | .inappropriateType _ code text
  | .noSuchThing _ code text => .ofCode (codeOf code) text
  | .otherError code text | .resourceBusy code text | .resourceVanished code text
  | .unsupportedOperation code text | .hardwareFault code text
  | .unsatisfiedConstraints code text | .illegalOperation code text | .protocolError code text
  | .timeExpired code text => .ofCode (codeOf code) text
  | .unexpectedEof => .deviceFault
  | .userError text => .other 0 text

/-- The result of an action or its error. -/
def attempt {α : Type} (action : IO α) : IO (Except FileError α) := do
  try return .ok (← action) catch e => return .error (fileErrorOf e)

/-- The kind of a file type. -/
def kindOf : IO.FS.FileType → FileKind
  | .file => .regular
  | .dir => .directory
  | _ => .special

/-- Looks at a path. -/
def look (path : Path) : IO Sight := do
  let text := path.display
  let canonical ← attempt do return Path.ofString (← IO.FS.realPath ⟨text⟩).toString
  let place : IO.FS.DirEntry := ⟨⟨text⟩, ""⟩
  let kind ← attempt do return kindOf (← place.root.metadata).type
  let content ← attempt do return (← IO.FS.readBinFile ⟨text⟩).toList
  let entries ← attempt do
    let found ← place.root.readDir
    return found.toList.filterMap fun e => Name.ofBytes? (Utf8.encode e.fileName)
  return { path, kind, content, entries, canonical }

/-- Looks at all paths that a check observes. -/
def lookAll (s : CommandLine.Settings) : IO (List Sight) := do
  let schema ← look s.schema
  let target ← look s.target
  let below := (target.entries.toOption.getD []).map s.target.join
  return schema :: target :: (← below.mapM look)

/-- Looks at the files and runs the check. -/
def start (arguments : List String) : IO UInt32 := do
  let seen ← match CommandLine.readArguments arguments with
    | .ok settings => lookAll settings
    | .error _ => pure []
  let result := CommandLine.run (fileSystemOf seen) arguments
  (← IO.getStdout).putStr result.stdout
  (← IO.getStderr).putStr result.stderr
  return result.code.toUInt32

end ConfigCheck.Program

/-- Runs the program. -/
def main (arguments : List String) : IO UInt32 := ConfigCheck.Program.start arguments
