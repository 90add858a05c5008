import ConfigCheck.File.Tree

/-!
# Changing a tree

Files, links and directories are put at paths of a tree, with the directories that are missing on
the way, and removed again.  A path is walked as far as it leads; from there on its names are taken
as they stand.
-/

namespace ConfigCheck

namespace Node

/-- The entries with another node under a name: in the place of the first one, else at the end. -/
def replace (name : Name) (node : Node) : List (Name × Node) → List (Name × Node)
  | [] => [(name, node)]
  | (n, old) :: rest => if n = name then (n, node) :: rest else (n, old) :: replace name node rest

/-- A node with another one at a place below it. -/
def put (new : Node) : List Name → Node → Node
  | [], _ => new
  | name :: rest, .directory entries =>
    let child := (find? name entries).getD (.directory [])
    .directory (replace name (put new rest child) entries)
  | name :: rest, _ => .directory [(name, put new rest (.directory []))]

/-- A node without what stands at a place below it. -/
def remove : List Name → Node → Node
  | [name], .directory entries => .directory (entries.filter fun e => e.1 != name)
  | name :: rest, .directory entries =>
    match find? name entries with
    | some child => .directory (replace name (remove rest child) entries)
    | none => .directory entries
  | _, node => node

end Node

namespace Tree

/-- Where the steps lead, given backwards; names that do not exist are taken as they stand. -/
def destination (t : Tree) (start : List Name) : List Path.Step → List Name
  | [] => start
  | last :: before =>
    match walk t.root linkLimit start (before.reverse ++ [last]) with
    | .ok place => place
    | .error _ =>
      match last with
      | .stay => t.destination start before
      | .up => (t.destination start before).dropLast
      | .enter name => t.destination start before ++ [name]

/-- Where a path starts. -/
def startOf (t : Tree) (p : Path) : List Name := if p.isAbsolute then [] else t.here

/-- Where a path leads, links followed. -/
def place (t : Tree) (p : Path) : List Name := t.destination (t.startOf p) p.steps.reverse

/-- Where the last name of a path stands, even if it is a link. -/
def entryPlace (t : Tree) (p : Path) : List Name :=
  match p.steps.reverse with
  | .enter name :: before => t.destination (t.startOf p) before ++ [name]
  | _ => t.place p

/-- Writes a file. -/
def write (t : Tree) (p : Path) (content : List UInt8) : Tree :=
  { t with root := Node.put (.regular (.ok content)) (t.place p) t.root }

/-- Makes a directory, unless there is one. -/
def makeDirectory (t : Tree) (p : Path) : Tree :=
  match t.kind p with
  | .ok .directory => t
  | _ => { t with root := Node.put (.directory []) (t.place p) t.root }

/-- Makes a link. -/
def makeLink (t : Tree) (p target : Path) : Tree :=
  { t with root := Node.put (.link target) (t.entryPlace p) t.root }

/-- Removes a file, a link or a directory with all that it holds. -/
def remove (t : Tree) (p : Path) : Tree := { t with root := Node.remove (t.entryPlace p) t.root }

end Tree

end ConfigCheck
