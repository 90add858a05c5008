import ConfigCheck.Decimal.Number
import ConfigCheck.Text.Quoted

/-!
# YAML nodes

The tree that a YAML document stands for once its aliases are replaced.  A mapping keeps its entries
in the order of the text, and any node can be a key; `Node.same` says when two keys are the same
key.  A local tag stays with its node.
-/

namespace ConfigCheck.Yaml

/-- A node of a document. -/
inductive Node where
  /-- Null. -/
  | null
  /-- A boolean. -/
  | bool (value : Bool)
  /-- A number; a floating-point one need not be finite. -/
  | number (value : Number)
  /-- A string. -/
  | string (value : String)
  /-- Items in order. -/
  | sequence (items : List Node)
  /-- Entries in order. -/
  | mapping (entries : List (Node × Node))
  /-- A node with a local tag. -/
  | tagged (tag : String) (node : Node)
deriving Repr, Inhabited, BEq

/-- Equality of numbers as keys: an integer and a floating-point number differ, the two zeros do
not, and there is one not-a-number. -/
def sameNumber : Number → Number → Bool
  | .int a, .int b => a = b
  | .float a, .float b => (a.isNaN && b.isNaN) || a.same b
  | _, _ => false

/-- The text of a number, with names for those that are not finite. -/
def writeNumber : Number → String
  | .int i => toString i
  | .float x =>
    if x.isNaN then ".nan"
    else if x.isInfinite then if x.negative then "-.inf" else ".inf"
    else Notation.key.write x

namespace Node

/-- Equality of keys.  The order of entries makes no difference. -/
def same (a b : Node) : Bool :=
  match a, b with
  | .null, .null => true
  | .bool a, .bool b => a = b
  | .number a, .number b => sameNumber a b
  | .string a, .string b => a = b
  | .sequence as, .sequence bs => sameItems as bs
  | .mapping as, .mapping bs => as.length = bs.length && sameEntries as bs
  | .tagged s a, .tagged t b => s = t && a.same b
  | _, _ => false
where
  /-- Whether the items are the same one by one. -/
  sameItems : List Node → List Node → Bool
    | [], [] => true
    | a :: as, b :: bs => a.same b && sameItems as bs
    | _, _ => false
  /-- Whether every entry has a counterpart. -/
  sameEntries : List (Node × Node) → List (Node × Node) → Bool
    | [], _ => true
    | (k, v) :: rest, bs => bs.any (fun (k', v') => k.same k' && v.same v') && sameEntries rest bs

/-- The number of collections and tags around the innermost node. -/
def depth (n : Node) : Nat :=
  match n with
  | .sequence items => depthItems items + 1
  | .mapping entries => depthEntries entries + 1
  | .tagged _ node => node.depth + 1
  | _ => 0
where
  /-- The depth of the deepest item. -/
  depthItems : List Node → Nat
    | [] => 0
    | n :: rest => max n.depth (depthItems rest)
  /-- The depth of the deepest value. -/
  depthEntries : List (Node × Node) → Nat
    | [] => 0
    | (_, v) :: rest => max v.depth (depthEntries rest)

/-- The node in words, for messages: its kind and its content. -/
def describe (n : Node) : String :=
  match n with
  | .null => "Null"
  | .bool b => s!"Bool({b})"
  | .number n => s!"Number({writeNumber n})"
  | .string s => s!"String({Text.quote s})"
  | .sequence items => s!"Sequence [{describeItems items}]"
  | .mapping entries => "Mapping \x7b" ++ describeEntries entries ++ "\x7d"
  | .tagged tag node => s!"TaggedValue \x7b tag: !{tag}, value: {describe node} \x7d"
where
  /-- Items with commas between them. -/
  describeItems : List Node → String
    | [] => ""
    | n :: rest =>
      n.describe ++ match rest with
        | [] => ""
        | next :: more => ", " ++ describeItems (next :: more)
  /-- Entries with commas between them; scalar keys other than null go without their kind. -/
  describeEntries : List (Node × Node) → String
    | [] => ""
    | (k, v) :: rest =>
      let key := match k with
        | .bool b => toString b
        | .number n => writeNumber n
        | .string s => Text.quote s
        | k => k.describe
      key ++ ": " ++ v.describe ++ match rest with
        | [] => ""
        | next :: more => ", " ++ describeEntries (next :: more)

@[simp] theorem same_string (s t : String) : (string s).same (string t) = decide (s = t) := by
  simp [same]

end Node

/-- Whether a mapping has the key. -/
def hasKey (entries : List (Node × Node)) (key : Node) : Bool := entries.any (·.1.same key)

end ConfigCheck.Yaml
