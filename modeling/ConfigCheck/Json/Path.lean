import ConfigCheck.Json.Value
import ConfigCheck.Text.Record

/-!
# Places inside a value

A place is a list of segments, each a member name or an item index (`Json.Segment`).  As text it
is a pointer: a slash before each segment, with `~` written `~0` and `/` written `~1` inside a
name (`Json.pointer`).  The pointer does not say whether a segment is a name or an index; the value
does: below an array a number is an index, and all else is a name (`Json.resolvePointer`).

There are two ways back from a part of a pointer to its token.  One goes through the part once
(`Json.unescapeToken`), the other replaces first the one escape and then the other everywhere
(`Json.decodeToken`).  They agree on what is written for a token, but not on `~~1`.
-/

namespace ConfigCheck.Json

/-- One step into a value. -/
inductive Segment where
  /-- To the member of an object. -/
  | key (name : String)
  /-- To the item of an array. -/
  | index (position : Nat)
deriving DecidableEq, Repr, Inhabited

/-- The text of a segment: the name as it is, the index in decimal. -/
def Segment.text : Segment → String
  | .key name => name
  | .index position => toString position

/-- The segment with its kind. -/
def Segment.detail : Segment → String
  | .key name => Text.wrap "Key" (Text.quote name)
  | .index position => Text.wrap "Index" (toString position)

/-- The segment in a report. -/
def Segment.toJson : Segment → Json
  | .key name => .string name
  | .index position => .number (.int position)

/-- The value one step further, if the step can be taken. -/
def step? : Json → Segment → Option Json
  | .object members, .key name => Members.get? members name
  | .array items, .index position => items[position]?
  | _, _ => none

/-- The value at a place, if it exists. -/
def walk? (value : Json) : List Segment → Option Json
  | [] => some value
  | s :: rest => (value.step? s).bind (walk? · rest)

@[simp] theorem walk?_nil (value : Json) : value.walk? [] = some value := rfl

/-! ## Pointers -/

/-- How one character is written in a pointer. -/
def escapePointerChar (c : Char) : List Char :=
  if c = '~' then ['~', '0'] else if c = '/' then ['~', '1'] else [c]

/-- A token as it stands in a pointer. -/
def escapeToken (token : String) : List Char := token.toList.flatMap escapePointerChar

/-- The pointer with these tokens. -/
def pointerText (tokens : List String) : String :=
  String.ofList (tokens.flatMap fun t => '/' :: escapeToken t)

/-- The pointer of a place. -/
def pointer (path : List Segment) : String := pointerText (path.map Segment.text)

/-- The characters that a part of a pointer stands for: `~1` is a slash and `~0` a tilde.  A tilde
before any other character stands for itself, as does that character. -/
def unescapeChars : List Char → List Char
  | '~' :: '1' :: rest => '/' :: unescapeChars rest
  | '~' :: '0' :: rest => '~' :: unescapeChars rest
  | '~' :: c :: rest => '~' :: c :: unescapeChars rest
  | c :: rest => c :: unescapeChars rest
  | [] => []

/-- The token that a part of a pointer stands for. -/
def unescapeToken (part : String) : String := String.ofList (unescapeChars part.toList)

/-- The parts between slashes; there is always at least one. -/
def splitSlashes : List Char → List (List Char)
  | [] => [[]]
  | c :: rest =>
    match splitSlashes rest with
    | [] => [[c]]
    | part :: parts => if c = '/' then [] :: part :: parts else (c :: part) :: parts

/-- The parts of a pointer as they are written: one for each slash. -/
def pointerParts (pointer : String) : List String :=
  (splitSlashes pointer.toList).tail.map String.ofList

/-- The tokens of a pointer: one for each slash. -/
def pointerTokens (pointer : String) : List String := (pointerParts pointer).map unescapeToken

/-- The number that a token writes: decimal digits, perhaps behind a plus sign, below `2 ^ 64`. -/
def indexOfToken? (token : String) : Option Nat :=
  let digits := match token.toList with
    | '+' :: rest => rest
    | cs => cs
  if digits = [] || !digits.all Char.isDigit then none
  else
    let n := digits.foldl (fun n c => n * 10 + (c.toNat - '0'.toNat)) 0
    if n < 2 ^ 64 then some n else none

/-- The characters with each pair of the two replaced, from left to right. -/
def replacePair (first second replacement : Char) : List Char → List Char
  | c :: d :: rest =>
    if c = first && d = second then replacement :: replacePair first second replacement rest
    else c :: replacePair first second replacement (d :: rest)
  | cs => cs

/-- The token that a part of a pointer stands for if the escapes are replaced one after the other.
The slash comes first: a tilde that stands for itself must not meet what follows it. -/
def decodeToken (part : String) : String :=
  String.ofList (replacePair '~' '0' '~' (replacePair '~' '1' '/' part.toList))

/-- The segments that tokens stand for, walking the value along them; `none` once the walk has
left the value. -/
def typeTokens : Option Json → List String → List Segment
  | _, [] => []
  | some (.array items), token :: rest =>
    match indexOfToken? token with
    | some i => .index i :: typeTokens items[i]? rest
    | none => .key token :: typeTokens none rest
  | some (.object members), token :: rest =>
    .key token :: typeTokens (Members.get? members token) rest
  | _, token :: rest => .key token :: typeTokens none rest

/-- The place that a pointer leads to in a value. -/
def resolvePointer (pointer : String) (value : Json) : List Segment :=
  typeTokens (some value) ((pointerParts pointer).map decodeToken)

end ConfigCheck.Json
