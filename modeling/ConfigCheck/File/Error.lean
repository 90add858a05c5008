import ConfigCheck.Text.Record

/-!
# Errors of the file system

Why a path cannot be looked at or read.  All but one of them have a number, which is shown behind
their text.
-/

namespace ConfigCheck

/-- Why a path cannot be looked at or read. -/
inductive FileError where
  /-- Nothing has this name. -/
  | missing
  /-- Something on the way is not a directory. -/
  | notDirectory
  /-- A directory has no content to read. -/
  | isDirectory
  /-- Links lead on too many times. -/
  | tooManyLinks
  /-- The path or a name in it is too long. -/
  | nameTooLong
  /-- The device fails. -/
  | deviceFault
  /-- There is no permission. -/
  | denied
  /-- The path has a zero byte in it. -/
  | zeroByte
  /-- Any other error, with its number and text. -/
  | other (code : Nat) (text : String)
deriving DecidableEq, Repr, Inhabited

namespace FileError

/-- The number of the error, if it has one. -/
def code? : FileError → Option Nat
  | missing => some 2
  | notDirectory => some 20
  | isDirectory => some 21
  | tooManyLinks => some 40
  | nameTooLong => some 36
  | deviceFault => some 5
  | denied => some 13
  | zeroByte => none
  | other code _ => some code

/-- The error in words, without its number. -/
def text : FileError → String
  | missing => "No such file or directory"
  | notDirectory => "Not a directory"
  | isDirectory => "Is a directory"
  | tooManyLinks => "Too many levels of symbolic links"
  | nameTooLong => "File name too long"
  | deviceFault => "Input/output error"
  | denied => "Permission denied"
  | zeroByte => "file name contained an unexpected NUL byte"
  | other _ text => text

/-- The error with a number; the text is that of an error that is not known. -/
def ofCode (code : Nat) (text : String) : FileError :=
  let known := [missing, notDirectory, isDirectory, tooManyLinks, nameTooLong, deviceFault, denied]
  (known.find? fun e => e.code? == some code).getD (other code text)

/-- The class to which the error belongs. -/
def kindName : FileError → String
  | missing => "NotFound"
  | notDirectory => "NotADirectory"
  | isDirectory => "IsADirectory"
  | tooManyLinks => "FilesystemLoop"
  | nameTooLong => "InvalidFilename"
  | denied => "PermissionDenied"
  | zeroByte => "InvalidInput"
  | deviceFault | other _ _ => "Uncategorized"

/-- The error as users see it. -/
def message (e : FileError) : String :=
  match e.code? with
  | some code => s!"{e.text} (os error {code})"
  | none => e.text

/-- The error with all its parts. -/
def detail (e : FileError) : String :=
  let description := [("kind", e.kindName), ("message", Text.quote e.text)]
  match e.code? with
  | some code => Text.record "Os" (("code", toString code) :: description)
  | none => Text.record "Error" description

end FileError

end ConfigCheck
