import ConfigCheck.Text.Utf8
import ConfigCheck.Text.Quoted

/-!
# Paths

A path is a sequence of bytes other than zero; slashes separate its components.  Empty components
and `.` say nothing, and `..` names no file, so the name of the file that a path ends in is its
last component that says something.  The extension is what stands behind the last dot of that
name, unless the dot comes first.
-/

namespace ConfigCheck

/-- A path as bytes. -/
structure Path where
  /-- The bytes, as given. -/
  bytes : List UInt8
deriving DecidableEq, Repr, Inhabited

namespace Path

/-- The slash. -/
def slash : UInt8 := 0x2f

/-- The dot. -/
def dot : UInt8 := 0x2e

/-- The path written as a text. -/
def ofString (s : String) : Path := ⟨Utf8.encode s⟩

/-- The text of the path, with replacement characters where it is not UTF-8. -/
def display (p : Path) : String := Utf8.decodeLossy p.bytes

/-- The text of the path if it is UTF-8. -/
def text? (p : Path) : Option String := Utf8.decode? p.bytes

/-- How one piece of a path is written between double quotes: a character as in any quoted text,
and bytes that are not UTF-8 in hexadecimal. -/
def quotePiece : Except (List UInt8) Char → List Char
  | .ok c => Text.quoteChar c
  | .error bytes => bytes.flatMap fun b =>
    '\\' :: 'x' :: (Nat.toDigits 16 b.toNat).map Char.toUpper

/-- The path in quotes. -/
def quoted (p : Path) : String :=
  String.ofList ('"' :: (Utf8.pieces 0 p.bytes).flatMap quotePiece ++ ['"'])

/-- Splits at every occurrence of a byte; there is always at least one part. -/
def splitAt (separator : UInt8) : List UInt8 → List (List UInt8)
  | [] => [[]]
  | b :: rest =>
    match splitAt separator rest with
    | [] => [[b]]
    | part :: parts => if b = separator then [] :: part :: parts else (b :: part) :: parts

/-- The components between slashes that say something: neither empty nor `.`. -/
def components (p : Path) : List (List UInt8) :=
  (splitAt slash p.bytes).filter fun c => c != [] && c != [dot]

/-- Whether the path starts at the root. -/
def isAbsolute (p : Path) : Bool := p.bytes.head? == some slash

/-- The name of the file that the path ends in. -/
def fileName? (p : Path) : Option (List UInt8) :=
  match p.components.getLast? with
  | some name => if name = [dot, dot] then none else some name
  | none => none

/-- Splits a name at its last dot. -/
def splitLastDot (name : List UInt8) : Option (List UInt8 × List UInt8) :=
  let after := (name.reverse.takeWhile (· != dot)).reverse
  if after.length = name.length then none
  else some (name.take (name.length - after.length - 1), after)

/-- What stands behind the last dot of the file name, unless nothing stands before it. -/
def extension? (p : Path) : Option (List UInt8) := do
  let (stem, after) ← splitLastDot (← p.fileName?)
  if stem = [] then none else some after

/-- Whether bytes can name an entry of a directory. -/
def isEntryName (bytes : List UInt8) : Bool :=
  bytes != [] && bytes != [dot] && bytes != [dot, dot] && !bytes.contains slash &&
    !bytes.contains 0

end Path

/-- A name that an entry of a directory can have. -/
structure Name where
  /-- The bytes of the name. -/
  bytes : List UInt8
  /-- The bytes can name an entry. -/
  valid : Path.isEntryName bytes = true
deriving DecidableEq

namespace Name

/-- The name with these bytes, if they can be one. -/
def ofBytes? (bytes : List UInt8) : Option Name :=
  if h : Path.isEntryName bytes = true then some ⟨bytes, h⟩ else none

/-- The name before another one, or the same, in the order of their bytes. -/
def le (a b : Name) : Bool := decide (a.bytes ≤ b.bytes)

end Name

/-- One step of a path through the directories. -/
inductive Path.Step where
  /-- Stays in the directory. -/
  | stay
  /-- Goes to the directory above. -/
  | up
  /-- Goes to an entry. -/
  | enter (name : Name)
deriving DecidableEq

namespace Path

/-- The step that a component stands for. -/
def Step.ofComponent (component : List UInt8) : Step :=
  if component = [dot, dot] then .up
  else
    match Name.ofBytes? component with
    | some name => .enter name
    | none => .stay

/-- The steps of the path, one for each component.  A slash at the end asks for a directory. -/
def steps (p : Path) : List Step := (splitAt slash p.bytes).map Step.ofComponent

/-- The path of an entry of a directory. -/
def join (dir : Path) (name : Name) : Path :=
  if dir.bytes = [] || dir.bytes.getLast? = some slash then ⟨dir.bytes ++ name.bytes⟩
  else ⟨dir.bytes ++ slash :: name.bytes⟩

/-- The path from the root through directories. -/
def ofNames : List Name → Path
  | [] => ⟨[slash]⟩
  | name :: rest => ⟨(name :: rest).flatMap fun n => slash :: n.bytes⟩

end Path

end ConfigCheck
