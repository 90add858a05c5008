import ConfigCheck.Yaml.Error
import ConfigCheck.Yaml.Event.Grammar

/-!
# YAML documents

The events of the first document of a text, with every alias pointing to the event of its anchor
(`Document.ofEvents`), and the tree that they stand for (`Document.toNode`).

An anchor gets the number of names known at that point, so a name that is set again shares its
number with the next new name, and of two anchors with one number the later one counts.

The tree is built along the events; an alias jumps back to its anchor.  Collections may be nested
128 deep, aliases included, and there may be a hundred jumps for each event, so the tree of a
text is always finite.
-/

namespace ConfigCheck.Yaml

/-- An event inside a document. -/
inductive Piece where
  | alias (anchor : Nat)
  | scalar (tag : Option TagText) (text : String) (style : ScalarStyle)
  | sequenceStart (tag : Option TagText)
  | sequenceEnd
  | mappingStart (tag : Option TagText)
  | mappingEnd
  /-- The whole of an empty stream. -/
  | nothing
deriving DecidableEq, Repr, Inhabited

/-- The events of one document. -/
structure Document where
  /-- The events with their places. -/
  pieces : List (Piece × Mark)
  /-- For the number of an anchor, the number of pieces before it; the latest comes first. -/
  anchors : List (Nat × Nat)
  /-- The error that cut the document short. -/
  failure : Option Error
deriving Repr, Inhabited

/-- A document while its events are read. -/
structure DocumentBuilder where
  /-- The pieces so far in reverse. -/
  pieces : List (Piece × Mark)
  /-- The anchors so far. -/
  anchors : List (Nat × Nat)
  /-- The names that are known, with the numbers of their anchors. -/
  names : List (String × Nat)
deriving Repr

namespace DocumentBuilder

/-- The document before its first event. -/
def empty : DocumentBuilder := ⟨[], [], []⟩

/-- Adds a piece. -/
def push (b : DocumentBuilder) (p : Piece) (m : Mark) : DocumentBuilder :=
  { b with pieces := (p, m) :: b.pieces }

/-- Notes the anchor of the piece that comes next. -/
def note (b : DocumentBuilder) (anchor : Option String) : DocumentBuilder :=
  match anchor with
  | none => b
  | some name =>
    let number := b.names.length
    { b with
      names := (name, number) :: b.names.filter (·.1 != name)
      anchors := (number, b.pieces.length) :: b.anchors }

/-- The finished document. -/
def finish (b : DocumentBuilder) (failure : Option Error) : Document :=
  ⟨b.pieces.reverse, b.anchors, failure⟩

/-- Reads the events of a document; gives it and the events behind it, unless the stream is
over. -/
def read (failure : Option SyntaxError) :
    DocumentBuilder → List (Event × Mark) → Document × Option (List (Event × Mark))
  | b, [] => (b.finish (failure.map .badSyntax), some [])
  | b, (event, m) :: rest =>
    match event with
    | .streamStart | .documentStart => read failure b rest
    | .documentEnd => (b.finish none, some rest)
    | .streamEnd => ((if b.pieces = [] then b.push .nothing m else b).finish none, none)
    | .alias name =>
      match b.names.lookup name with
      | some anchor => read failure (b.push (.alias anchor) m) rest
      | none => (b.finish (some (.unknownAnchor m)), some rest)
    | .scalar p text style =>
      read failure ((b.note p.anchor).push (.scalar p.tag text style) m) rest
    | .sequenceStart p => read failure ((b.note p.anchor).push (.sequenceStart p.tag) m) rest
    | .sequenceEnd => read failure (b.push .sequenceEnd m) rest
    | .mappingStart p => read failure ((b.note p.anchor).push (.mappingStart p.tag) m) rest
    | .mappingEnd => read failure (b.push .mappingEnd m) rest

end DocumentBuilder

/-- The first document of an event stream, and whether anything but the end comes after it. -/
def Document.ofEvents (s : EventStream) : Document × Bool :=
  match DocumentBuilder.read s.failure .empty s.events with
  | (d, none) => (d, false)
  | (d, some ((.streamEnd, _) :: _)) => (d, false)
  | (d, some _) => (d, true)

/-! ## Paths -/

/-- The path of an item. -/
def itemPath (path : String) (index : Nat) : String := s!"{path}[{index}]"

/-- The path of a value; its key has no text if it is not a scalar. -/
def valuePath (path : String) (key : Option String) : String :=
  (if path = "." then "" else path ++ ".") ++ key.getD "?"

/-! ## Trees -/

/-- The name of a local tag: the text behind its exclamation marks, at most two.  Other tags have
none. -/
def localTag? : Option TagText → Option String
  | some (0x21 :: rest) =>
    if rest = [] then some "!"
    else
      match rest with
      | 0x21 :: b :: more => Utf8.decode? (b :: more)
      | _ => Utf8.decode? rest
  | _ => none

/-- The node of a scalar. -/
def ScalarValue.toNode : ScalarValue → Node
  | .null => .null
  | .bool b => .bool b
  | .number n => .number n
  | .string s => .string s

/-- A node with its local tag, if it has one. -/
def withTag (tag : Option TagText) (n : Node) : Node :=
  match localTag? tag with
  | some name => .tagged name n
  | none => n

/-- What is left while a tree is built: the pieces and the number of jumps so far. -/
structure Remainder where
  /-- The pieces behind the node. -/
  pieces : List (Piece × Mark)
  /-- The number of aliases that were followed. -/
  jumps : Nat
deriving Repr

namespace Document

/-- A function that builds the node at the front, given its path. -/
abbrev Builder := String → Remainder → Except Error (Node × Remainder)

/-- The error where the pieces end too early. -/
def cutShort (d : Document) : Error := d.failure.getD .endOfText

/-- The items of a sequence and what is behind its end. -/
def items (d : Document) (build : Builder) (path : String) :
    (fuel index : Nat) → Remainder → Except Error (List Node × Remainder)
  | 0, _, _ => .error d.cutShort
  | fuel + 1, index, r =>
    match r.pieces with
    | [] => .error d.cutShort
    | (.sequenceEnd, _) :: rest => .ok ([], { r with pieces := rest })
    | _ => do
      let (item, r) ← build (itemPath path index) r
      let (rest, r) ← d.items build path fuel (index + 1) r
      return (item :: rest, r)

/-- The entries of a mapping and what is behind its end.  A key that is there already is refused
before its value is looked at. -/
def entries (d : Document) (build : Builder) (path : String) (place : Mark) :
    (fuel : Nat) → List (Node × Node) → Remainder →
      Except Error (List (Node × Node) × Remainder)
  | 0, _, _ => .error d.cutShort
  | fuel + 1, done, r =>
    match r.pieces with
    | [] => .error d.cutShort
    | (.mappingEnd, _) :: rest => .ok (done, { r with pieces := rest })
    | (p, _) :: _ => do
      let keyText := match p with
        | .scalar _ text _ => some text
        | _ => none
      let (key, r) ← build path r
      if hasKey done key then throw (.node path (.duplicateKey key) place)
      let (value, r) ← build (valuePath path keyText) r
      d.entries build path place fuel (done ++ [(key, value)]) r

/-- The collection or scalar at the front.  `inner` builds the nodes inside it, if they may be
nested that deeply. -/
def content (d : Document) (inner : Option Builder) : Builder := fun path r =>
  match r.pieces with
  | [] => .error d.cutShort
  | (p, place) :: rest =>
    let behind : Remainder := { r with pieces := rest }
    match p with
    | .scalar tag text style =>
      let meaning :=
        if (localTag? tag).isSome then
          if style = .plain then resolvePlain text else .ok (.string text)
        else resolveScalar tag text style
      match meaning with
      | .ok v => .ok (withTag tag v.toNode, behind)
      | .error problem => .error (.node path (.scalar problem) place)
    | .sequenceStart tag =>
      match inner with
      | none => .error (.tooDeep place)
      | some build => do
        let (nodes, r) ← d.items build path (rest.length + 1) 0 behind
        return (withTag tag (.sequence nodes), r)
    | .mappingStart tag =>
      match inner with
      | none => .error (.tooDeep place)
      | some build => do
        let (nodes, r) ← d.entries build path place (rest.length + 1) [] behind
        return (withTag tag (.mapping nodes), r)
    | _ => .ok (.null, behind)

/-- The node at the front; an alias stands for the node of its anchor. -/
def nodeWith (d : Document) (inner : Option Builder) : Builder := fun path r =>
  match r.pieces with
  | (.alias anchor, _) :: rest =>
    if d.pieces.length * 100 < r.jumps + 1 then .error .tooManyAliases
    else do
      let target := d.pieces.drop ((d.anchors.lookup anchor).getD 0)
      let (n, r) ← d.content inner path ⟨target, r.jumps + 1⟩
      return (n, { r with pieces := rest })
  | _ => d.content inner path r

/-- The node at the front, with at most `depth` collections inside each other. -/
def node (d : Document) : (depth : Nat) → Builder
  | 0 => d.nodeWith none
  | depth + 1 => d.nodeWith (some (d.node depth))

/-- The tree of a document. -/
def toNode (d : Document) : Except Error Node := do
  let (n, _) ← d.node 128 "." ⟨d.pieces, 0⟩
  match d.failure with
  | some e => throw e
  | none => return n

end Document

end ConfigCheck.Yaml
