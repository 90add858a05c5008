import ConfigCheck.Check.Error
import ConfigCheck.File.System

/-!
# Targets

A target is one file or a directory of files.  In a directory those entries count that are regular
files, after following links, and have the extension of a format; what lies in directories below
does not.  The files are checked in the order of the bytes of their names.
-/

namespace ConfigCheck

namespace Target

/-- What becomes of an entry of a directory. -/
inductive Verdict where
  /-- The entry is checked. -/
  | eligible
  /-- The entry cannot be looked at. -/
  | unreadable (cause : FileError)
  /-- The entry is not a file. -/
  | notFile
  /-- The extension of the file belongs to no format. -/
  | otherExtension
deriving DecidableEq, Repr

/-- What becomes of an entry at a path. -/
def verdict (fs : FileSystem) (path : Path) : Verdict :=
  match fs.kind path with
  | .error e => .unreadable e
  | .ok .regular => if (Format.ofPath path).isSupported then .eligible else .otherExtension
  | .ok _ => .notFile

/-- The record about an entry that is left out. -/
def Verdict.record? (path : Path) : Verdict → Option Log.Record
  | eligible => none
  | unreadable cause => some ⟨.warn, "skipping unreadable directory entry",
      [("path", path.display), ("error", cause.message)]⟩
  | notFile => some ⟨.debug, "skipping non-file entry", [("path", path.display)]⟩
  | otherExtension =>
    some ⟨.debug, "skipping file with ineligible extension", [("path", path.display)]⟩

/-- The files to check among the entries of a directory. -/
def eligible (fs : FileSystem) (dir : Path) (names : List Name) : List Path :=
  ((names.filter fun n => verdict fs (dir.join n) = .eligible).mergeSort Name.le).map dir.join

/-- The eligible entries, and nothing else, are the files to check. -/
theorem mem_eligible {fs : FileSystem} {dir path : Path} {names : List Name} :
    path ∈ eligible fs dir names ↔
      ∃ name ∈ names, dir.join name = path ∧ verdict fs path = .eligible := by
  simp [eligible]
  grind

/-- The records about the entries that are left out. -/
def skipped (fs : FileSystem) (dir : Path) (names : List Name) : List Log.Record :=
  (names.map dir.join).filterMap fun p => (verdict fs p).record? p

/-- The files to check in a directory. -/
def ofDirectory (fs : FileSystem) (dir : Path) : Checked (List Path) :=
  match fs.entries dir with
  | .error e => .fail (.io dir e)
  | .ok names =>
    match eligible fs dir names with
    | [] => ⟨.error (.noEligibleFiles dir), skipped fs dir names⟩
    | files => ⟨.ok files, skipped fs dir names ++ [⟨.debug, "resolved target directory",
        [("dir", dir.display), ("count", toString files.length)]⟩]⟩

/-- The target, if it is a single file. -/
def ofFile (path : Path) : Except CheckError (List Path) :=
  match Format.ofPath path with
  | .unsupported extension => .error (.unsupportedFormat path extension)
  | _ => .ok [path]

/-- The files to check for a target. -/
def files (fs : FileSystem) (target : Path) : Checked (List Path) :=
  match fs.kind target with
  | .error .missing => .fail (.targetNotFound target)
  | .error e => .fail (.io target e)
  | .ok .regular => .ofExcept (ofFile target)
  | .ok .directory => ofDirectory fs target
  | .ok .special => .fail (.invalidTargetType target)

end Target

end ConfigCheck
