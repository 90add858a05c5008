import ConfigCheck.Json.Path

/-!
# JSON text

Values are written in one of two ways: compactly, without any space (`Json.compact`), or on one
line per item and member with an indentation of two spaces (`Json.pretty`).  Members are written
in the order in which they stand.  In strings only quotes, backslashes and control characters are
escaped.  Writing from front to back may stop at a node; `Json.prettyBefore` is what has been
written by then.
-/

namespace ConfigCheck.Json

/-- The four hexadecimal digits of a control character. -/
def controlEscape (c : Char) : List Char :=
  let digits := Nat.toDigits 16 c.toNat
  '\\' :: 'u' :: List.replicate (4 - digits.length) '0' ++ digits

/-- How one character is written inside a string. -/
def escapeChar (c : Char) : List Char :=
  match c with
  | '"' => ['\\', '"']
  | '\\' => ['\\', '\\']
  | '\x08' => ['\\', 'b']
  | '\t' => ['\\', 't']
  | '\n' => ['\\', 'n']
  | '\x0c' => ['\\', 'f']
  | '\r' => ['\\', 'r']
  | c => if c.toNat < 0x20 then controlEscape c else [c]

/-- A string between quotes. -/
def writeString (s : String) : List Char := '"' :: s.toList.flatMap escapeChar ++ ['"']

/-- A value that holds no other value. -/
def writeLeaf : Json → List Char
  | .null => "null".toList
  | .bool b => (if b then "true" else "false").toList
  | .number n => (n.write .json).toList
  | .string s => writeString s
  | .array _ => ['[', ']']
  | .object _ => ['\x7b', '\x7d']

/-- A value without any space. -/
def write (value : Json) : List Char :=
  match value with
  | .array items => '[' :: writeItems items ++ [']']
  | .object members => '\x7b' :: writeMembers members ++ ['\x7d']
  | leaf => writeLeaf leaf
where
  /-- Items with commas between them. -/
  writeItems : List Json → List Char
    | [] => []
    | v :: rest =>
      v.write ++ match rest with
        | [] => []
        | next :: more => ',' :: writeItems (next :: more)
  /-- Members with commas between them. -/
  writeMembers : List (String × Json) → List Char
    | [] => []
    | (name, v) :: rest =>
      writeString name ++ ':' :: v.write ++ match rest with
        | [] => []
        | next :: more => ',' :: writeMembers (next :: more)

/-- A line end and the indentation of the next line. -/
def newline (indent : Nat) : List Char := '\n' :: List.replicate (2 * indent) ' '

/-- A value with one line per item and member, indented by two spaces for each level. -/
def writePretty (indent : Nat) (value : Json) : List Char :=
  match value with
  | .array (v :: rest) =>
    '[' :: prettyItems indent (v :: rest) ++ newline indent ++ [']']
  | .object (m :: rest) =>
    '\x7b' :: prettyMembers indent (m :: rest) ++ newline indent ++ ['\x7d']
  | leaf => writeLeaf leaf
where
  /-- Items, each on a line of its own. -/
  prettyItems (indent : Nat) : List Json → List Char
    | [] => []
    | v :: rest =>
      newline (indent + 1) ++ writePretty (indent + 1) v ++ match rest with
        | [] => []
        | next :: more => ',' :: prettyItems indent (next :: more)
  /-- Members, each on a line of its own. -/
  prettyMembers (indent : Nat) : List (String × Json) → List Char
    | [] => []
    | (name, v) :: rest =>
      newline (indent + 1) ++ writeString name ++ ':' :: ' ' :: writePretty (indent + 1) v ++
        match rest with
        | [] => []
        | next :: more => ',' :: prettyMembers indent (next :: more)

/-- What is written of a value, with one line per item and member, before the node at a place. -/
def writeBefore (indent : Nat) (value : Json) : List Segment → List Char
  | [] => []
  | segment :: rest =>
    match value, segment with
    | .array items, .index i =>
      let before := (items.take i).flatMap fun v =>
        newline (indent + 1) ++ v.writePretty (indent + 1) ++ [',']
      '[' :: before ++ newline (indent + 1) ++
        writeBefore (indent + 1) (items[i]?.getD .null) rest
    | .object members, .key name =>
      let before := (members.takeWhile fun m => m.1 != name).flatMap fun (k, v) =>
        newline (indent + 1) ++ writeString k ++ ':' :: ' ' :: v.writePretty (indent + 1) ++ [',']
      '\x7b' :: before ++ newline (indent + 1) ++ writeString name ++ ':' :: ' ' ::
        writeBefore (indent + 1) ((Members.get? members name).getD .null) rest
    | _, _ => []

/-- The compact text of a value. -/
def compact (value : Json) : String := String.ofList value.write

/-- The text of a value on several lines. -/
def pretty (value : Json) : String := String.ofList (value.writePretty 0)

/-- What has been written of the text on several lines when the node at a place is reached. -/
def prettyBefore (value : Json) (place : List Segment) : String :=
  String.ofList (value.writeBefore 0 place)

end ConfigCheck.Json
