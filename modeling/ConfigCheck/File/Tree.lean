import ConfigCheck.File.System

/-!
# Trees of directories

A tree holds files, devices, links and directories, and knows the directory in which relative paths
start.  A path is walked step by step (`Tree.locate`): a link on the way is replaced by the steps of
its target, at most forty times, so that a loop of links comes to an end.  Every observation is made
at the place where the walk ends, hence they hang together: what has a kind also has a canonical
path (`Tree.canonical_of_kind`).
-/

namespace ConfigCheck

/-- What a name in a directory stands for. -/
inductive Node where
  /-- A file with its content, or why it cannot be read. -/
  | regular (content : Except FileError (List UInt8))
  /-- A device, with what can be read from it. -/
  | special (content : List UInt8)
  /-- A link to another path. -/
  | link (target : Path)
  /-- A directory with its entries; the first one of a name counts. -/
  | directory (entries : List (Name × Node))
deriving Inhabited

namespace Node

/-- The entry with a name. -/
def find? (name : Name) : List (Name × Node) → Option Node
  | [] => none
  | (n, node) :: rest => if n = name then some node else find? name rest

/-- The entry of a directory with a name. -/
def child? : Node → Name → Option Node
  | .directory entries, name => find? name entries
  | _, _ => none

/-- What stands at a place below a node, links not followed. -/
def at? (node : Node) : List Name → Option Node
  | [] => some node
  | name :: rest => (node.child? name).bind (at? · rest)

/-- The kind of a node; a link has none. -/
def kind? : Node → Option FileKind
  | .regular _ => some .regular
  | .special _ => some .special
  | .directory _ => some .directory
  | .link _ => none

end Node

/-- A tree of directories. -/
structure Tree where
  /-- The root directory. -/
  root : Node
  /-- The place where relative paths start. -/
  here : List Name
deriving Inhabited

namespace Tree

/-- The number of bytes that a name may have. -/
def nameLimit : Nat := 255

/-- The number of bytes that a path may have, with one behind its end. -/
def pathLimit : Nat := 4096

/-- The number of links that are followed on one walk. -/
def linkLimit : Nat := 40

/-- Takes steps from a place to the next link, where `follow` goes on from the directory of the link
with its target and the steps that are left. -/
def walkToLink (root : Node)
    (follow : List Name → Path → List Path.Step → Except FileError (List Name)) :
    (place : List Name) → List Path.Step → Except FileError (List Name)
  | place, [] => .ok place
  | place, step :: rest =>
    match root.at? place with
    | some (.directory entries) =>
      match step with
      | .stay => walkToLink root follow place rest
      | .up => walkToLink root follow place.dropLast rest
      | .enter name =>
        if nameLimit < name.bytes.length then .error .nameTooLong
        else
          match Node.find? name entries with
          | none => .error .missing
          | some (.link target) => follow place target rest
          | some _ => walkToLink root follow (place ++ [name]) rest
    | _ => .error .notDirectory

/-- Takes steps from a place, following as many links as are allowed. -/
def walk (root : Node) : (links : Nat) → (place : List Name) → List Path.Step →
    Except FileError (List Name)
  | 0 => walkToLink root fun _ _ _ => .error .tooManyLinks
  | links + 1 => walkToLink root fun place target rest =>
    if target.bytes = [] then .error .missing
    else walk root links (if target.isAbsolute then [] else place) (target.steps ++ rest)

/-- The place to which a path leads. -/
def locate (t : Tree) (p : Path) : Except FileError (List Name) :=
  if p.bytes.contains 0 then .error .zeroByte
  else if p.bytes = [] then .error .missing
  else if pathLimit ≤ p.bytes.length then .error .nameTooLong
  else walk t.root linkLimit (if p.isAbsolute then [] else t.here) p.steps

/-- The node to which a path leads. -/
def node (t : Tree) (p : Path) : Except FileError Node := do
  match t.root.at? (← t.locate p) with
  | some n => .ok n
  | none => .error .missing

/-- What a path leads to. -/
def kind (t : Tree) (p : Path) : Except FileError FileKind := do
  match (← t.node p).kind? with
  | some k => .ok k
  | none => .error .tooManyLinks

/-- The content of a file. -/
def read (t : Tree) (p : Path) : Except FileError (List UInt8) := do
  match ← t.node p with
  | .regular content => content
  | .special content => .ok content
  | .directory _ => .error .isDirectory
  | .link _ => .error .tooManyLinks

/-- The names of the entries of a directory. -/
def entries (t : Tree) (p : Path) : Except FileError (List Name) := do
  match ← t.node p with
  | .directory entries => .ok (entries.map Prod.fst).eraseDups
  | _ => .error .notDirectory

/-- The path from the root, without links. -/
def canonical (t : Tree) (p : Path) : Except FileError Path := do
  let place ← t.locate p
  let _ ← t.node p
  return Path.ofNames place

/-- What can be observed of a tree. -/
def fileSystem (t : Tree) : FileSystem where
  kind := t.kind
  read := t.read
  entries := t.entries
  canonical := t.canonical

/-- What has a kind also has a canonical path. -/
theorem canonical_of_kind {t : Tree} {p : Path} {k : FileKind} (h : t.kind p = .ok k) :
    ∃ place, t.locate p = .ok place ∧ t.canonical p = .ok (Path.ofNames place) := by
  cases hp : t.locate p with
  | error e => simp [kind, node, hp, bind, Except.bind] at h
  | ok place =>
    cases hn : t.node p with
    | error e => simp [kind, hn, bind, Except.bind] at h
    | ok n => exact ⟨place, rfl, by simp [canonical, hp, hn, bind, Except.bind, pure, Except.pure]⟩

end Tree

end ConfigCheck
