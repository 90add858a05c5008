import ConfigCheck.File.Error
import ConfigCheck.File.Path

/-!
# File systems

A file system is what can be observed of it: what kind of thing a path leads to, what a file holds,
which entries a directory has, and which path without links and detours leads to the same place.
Links are followed in all four.  Nothing is said here about how the observations hang together; a
tree of directories (`Tree.fileSystem`) makes ones that do.
-/

namespace ConfigCheck

/-- What a path leads to. -/
inductive FileKind where
  /-- A file with content. -/
  | regular
  /-- A directory. -/
  | directory
  /-- A device or anything else. -/
  | special
deriving DecidableEq, Repr, Inhabited

/-- What can be observed of files. -/
structure FileSystem where
  /-- What a path leads to. -/
  kind : Path → Except FileError FileKind
  /-- The content of a file. -/
  read : Path → Except FileError (List UInt8)
  /-- The entries of a directory, in no particular order. -/
  entries : Path → Except FileError (List Name)
  /-- The path from the root, without links, that leads to the same place. -/
  canonical : Path → Except FileError Path

namespace FileSystem

/-- Whether a path leads to a file with content. -/
def isRegular (fs : FileSystem) (p : Path) : Bool :=
  match fs.kind p with
  | .ok .regular => true
  | _ => false

/-- The path from the root if there is one, else the path as given. -/
def resolved (fs : FileSystem) (p : Path) : Path :=
  match fs.canonical p with
  | .ok q => q
  | .error _ => p

end FileSystem

end ConfigCheck
