import ConfigCheck.Regex.Escape

/-!
# Classes in brackets

A class in brackets has single characters, ranges, escapes, named classes, nested classes and three
set operations.  Reading it gives its members and how deep it is nested (`Bracket`).  A class that
names a property nobody knows can be read, but has no members that could be told.

Case is ignored, where it is, in each operand of a set operation and in each whole class, before a
complement is taken.
-/

namespace ConfigCheck.Regex

/-- What has been read inside brackets. -/
structure Bracket where
  /-- How many levels it has. -/
  height : Nat := 0
  /-- Its members, unless it names a property that does not exist. -/
  members : Option CharClass
deriving Repr, Inhabited

namespace Bracket

/-- A class without levels of its own. -/
def ofClass (k : CharClass) : Bracket := { members := some k }

/-- A set operation between two parts of a class. -/
inductive Operation where
  /-- What both have. -/
  | inter
  /-- What only the first has. -/
  | diff
  /-- What one of the two has. -/
  | either
deriving DecidableEq, Repr, Inhabited

/-- The class that an operation gives. -/
def Operation.apply : Operation → CharClass → CharClass → CharClass
  | inter, k, l => .inter k l
  | diff, k, l => .diff k l
  | either, k, l => .union (.diff k l) (.diff l k)

/-- An open bracket: what stands before the last set operation, and what comes after it. -/
structure Open where
  /-- Whether the class is a complement. -/
  negated : Bool
  /-- The left side of a set operation. -/
  left : Option (Operation × Bracket) := none
  /-- The number of items behind it. -/
  count : Nat := 0
  /-- The items behind it. -/
  items : Bracket := ofClass .empty
deriving Repr, Inhabited

namespace Open

/-- Adds an item. -/
def add (o : Open) (b : Bracket) : Open :=
  { o with
    count := o.count + 1
    items := {
      height := max o.items.height b.height
      members := o.items.members.bind fun k => b.members.map fun l => .union k l } }

/-- The items: several of them are a level of their own. -/
def union (o : Open) : Bracket :=
  { o.items with height := if o.count < 2 then o.items.height else o.items.height + 1 }

/-- The class without its complement: operations are applied from left to right. -/
def value (o : Open) (ignoreCase : Bool) : Bracket :=
  match o.left with
  | none => o.union
  | some (op, b) =>
    { height := max b.height o.union.height + 1
      members := b.members.bind fun k => o.union.members.map fun l =>
        op.apply (k.foldIf ignoreCase) (l.foldIf ignoreCase) }

/-- Begins the right side of an operation. -/
def operate (o : Open) (ignoreCase : Bool) (op : Operation) : Open :=
  { negated := o.negated, left := some (op, o.value ignoreCase) }

/-- The class when its bracket closes. -/
def close (o : Open) (ignoreCase : Bool) : Bracket :=
  let b := o.value ignoreCase
  { height := b.height + 1
    members := b.members.map fun k => (k.foldIf ignoreCase).negateIf o.negated }

end Open

end Bracket

/-- How classes are read. -/
structure ClassStyle where
  /-- Whether blanks and comments are left out. -/
  spaced : Bool := false
  /-- Whether case is ignored. -/
  ignoreCase : Bool := false
deriving DecidableEq, Repr, Inhabited

namespace ClassStyle

/-- The rest of a pattern behind blanks and comments, if they are left out. -/
def skip (m : ClassStyle) (s : List Char) : List Char := skipSpace m.spaced s

/-- The class that an escape stands for, if it stands for one. -/
def bracketOf? (m : ClassStyle) : Escape → Option Bracket
  | .char c => some (.ofClass (.ofChar c))
  | .bell => some (.ofClass (.ofChar '\x07'))
  | .members k => some (.ofClass k)
  | .property negated name => some { members := CharClass.ofProperty? negated m.ignoreCase name }
  | .boundary => none

/-- Reads one end of a range. -/
def readItem (m : ClassStyle) (s : List Char) : Except Fault (Escape × List Char) :=
  match s with
  | '\\' :: rest => readEscape m.spaced rest
  | c :: rest => .ok (.char c, rest)
  | [] => .error .malformed

/-- The range between two characters. -/
def rangeOf? (first last : Escape) : Option Bracket :=
  let end? : Escape → Option Char
    | .char c => some c
    | .bell => some '\x07'
    | _ => none
  match end? first, end? last with
  | some a, some b => if a ≤ b then some (.ofClass (.range a b)) else none
  | _, _ => none

/-- Gives what was read in brackets, which is at fault if it stands for no class. -/
def give (b? : Option Bracket) (rest : List Char) : Except Fault (Bracket × List Char) :=
  match b? with
  | some b => .ok (b, rest)
  | none => .error .malformed

/-- The next character behind blanks, if they are left out.  Of a comment, the first character
counts that is not blank. -/
def peek? (m : ClassStyle) (s : List Char) : Option Char :=
  if m.spaced then
    match s.dropWhile Text.isBlank with
    | '#' :: comment => (comment.dropWhile Text.isBlank).head?
    | rest => rest.head?
  else s.head?

/-- Reads a character, a class or a range inside brackets.  A dash before a closing bracket or
before another dash does not make a range. -/
def readRange (m : ClassStyle) (s : List Char) : Except Fault (Bracket × List Char) := do
  let (first, rest) ← m.readItem s
  match m.skip rest with
  | [] => .error .malformed
  | '-' :: after =>
    if m.peek? after = some ']' || m.peek? after = some '-' then
      give (m.bracketOf? first) (m.skip rest)
    else
      let (last, rest) ← m.readItem (m.skip after)
      give (rangeOf? first last) rest
  | rest => give (m.bracketOf? first) rest

/-- Reads a class by its name, as in `[:alpha:]`, if there is one. -/
def readNamed? (m : ClassStyle) (s : List Char) : Option (Bracket × List Char) :=
  match s with
  | '[' :: ':' :: rest =>
    let (negated, rest) := match rest with
      | '^' :: rest => (true, rest)
      | _ => (false, rest)
    let name := rest.takeWhile (· != ':')
    match rest.drop name.length with
    | ':' :: ']' :: after =>
      (CharClass.ofAsciiName? (String.ofList name)).map fun k =>
        (.ofClass ((k.foldIf m.ignoreCase).negateIf negated), after)
    | _ => none
  | _ => none

/-- Opens a bracket: a circumflex, then dashes, or else a closing bracket, stand for themselves. -/
def openBracket (m : ClassStyle) (s : List Char) : Bracket.Open × List Char :=
  let s := m.skip s
  let (negated, s) := match s with
    | '^' :: rest => (true, m.skip rest)
    | _ => (false, s)
  let (dashes, rest) := takeAll m.spaced (· = '-') s
  let dash : Bracket := .ofClass (.ofChar '-')
  if dashes = [] then
    match s with
    | ']' :: rest => (({ negated } : Bracket.Open).add (.ofClass (.ofChar ']')), m.skip rest)
    | _ => ({ negated }, s)
  else (dashes.foldl (fun o _ => o.add dash) { negated }, rest)

/-- Reads the rest of a class behind the innermost open bracket; `outer` are the ones around it, and
the number bounds the steps. -/
def readBracketRest (m : ClassStyle) :
    Nat → Bracket.Open → List Bracket.Open → List Char → Except Fault (Bracket × List Char)
  | 0, _, _, _ => .error .malformed
  | n + 1, o, outer, s =>
    match m.skip s with
    | [] => .error .malformed
    | '[' :: rest =>
      match m.readNamed? ('[' :: rest) with
      | some (b, after) => m.readBracketRest n (o.add b) outer after
      | none =>
        let (inner, after) := m.openBracket rest
        m.readBracketRest n inner (o :: outer) after
    | ']' :: rest =>
      let b := o.close m.ignoreCase
      match outer with
      | [] => .ok (b, rest)
      | next :: outer => m.readBracketRest n (next.add b) outer rest
    | '&' :: '&' :: rest => m.readBracketRest n (o.operate m.ignoreCase .inter) outer rest
    | '-' :: '-' :: rest => m.readBracketRest n (o.operate m.ignoreCase .diff) outer rest
    | '~' :: '~' :: rest => m.readBracketRest n (o.operate m.ignoreCase .either) outer rest
    | s =>
      match m.readRange s with
      | .ok (b, after) => m.readBracketRest n (o.add b) outer after
      | .error fault => .error fault

/-- Reads a class behind its opening bracket. -/
def readBracket (m : ClassStyle) (s : List Char) : Except Fault (Bracket × List Char) :=
  let (o, rest) := m.openBracket s
  m.readBracketRest (s.length + 1) o [] rest

end ClassStyle

end ConfigCheck.Regex
