import ConfigCheck.Regex.CharClass

/-!
# Regular expressions

The expression that a pattern stands for, and what can be said about it without a text: how many
characters a match has at least and whether all matches have as many (`Expression.extent`), whether
every match is empty (`Expression.isVacuous`), and whether an automaton can take it over
(`Expression.isHard` says that it cannot).
-/

namespace ConfigCheck.Regex

/-- A condition on the place between two characters. -/
inductive Boundary where
  /-- The beginning of the text. -/
  | textStart
  /-- The end of the text. -/
  | textEnd
  /-- The beginning of a line. -/
  | lineStart
  /-- The end of a line. -/
  | lineEnd
  /-- A word character on one side only. -/
  | wordEdge
  /-- A word character on both sides or on none. -/
  | noWordEdge
  /-- A word begins. -/
  | wordStart
  /-- A word ends. -/
  | wordEnd
deriving DecidableEq, Repr, Inhabited

/-- Whether the condition is about words. -/
def Boundary.isWordEdge : Boundary → Bool
  | textStart | textEnd | lineStart | lineEnd => false
  | wordEdge | noWordEdge | wordStart | wordEnd => true

/-- What a pattern stands for. -/
inductive Expression where
  /-- The empty string. -/
  | empty
  /-- One character of a class. -/
  | char (k : CharClass)
  /-- A condition that takes no character. -/
  | boundary (b : Boundary)
  /-- One after the other. -/
  | seq (parts : List Expression)
  /-- One of several, the first ones first. -/
  | alt (branches : List Expression)
  /-- Between `low` and `high` times, as often as possible if `greedy`. -/
  | loop (body : Expression) (low : Nat) (high : Option Nat) (greedy : Bool)
  /-- A group that can be referred to. -/
  | group (index : Nat) (body : Expression)
  /-- What the group has matched. -/
  | backref (index : Nat)
  /-- The group has begun. -/
  | known (index : Nat)
  /-- What follows, or what comes before, matches or does not; it takes no character. -/
  | look (behind negative : Bool) (body : Expression)
  /-- The first match of the body and no other. -/
  | atomic (body : Expression)
  /-- The match begins here; it takes no character. -/
  | restart
  /-- The place where the search began. -/
  | origin
  /-- One expression if a condition matches, and another one if it does not. -/
  | choice (condition yes no : Expression)
deriving Repr, Inhabited

namespace Expression

/-- Whether the expression is empty. -/
def isEmpty : Expression → Bool
  | empty => true
  | _ => false

/-- Whether a repetition can follow: it cannot follow a condition or nothing. -/
def isRepeatable : Expression → Bool
  | empty | boundary _ | look _ _ _ => false
  | _ => true

/-- Parts one after the other. -/
def ofParts (parts : List Expression) : Expression :=
  match parts.filter (!·.isEmpty) with
  | [] => empty
  | [e] => e
  | parts => seq parts

/-- Alternatives. -/
def ofBranches : List Expression → Expression
  | [] => empty
  | [e] => e
  | branches => alt branches

/-! ## Length -/

/-- What is known about the lengths of matches. -/
structure Extent where
  /-- No match has fewer characters. -/
  least : Nat
  /-- Every match has so many. -/
  fixed : Bool
deriving DecidableEq, Repr, Inhabited

namespace Extent

/-- One after the other. -/
def append (a b : Extent) : Extent := { least := a.least + b.least, fixed := a.fixed && b.fixed }

/-- One or the other. -/
def either (a b : Extent) : Extent :=
  { least := min a.least b.least, fixed := a.fixed && b.fixed && a.least == b.least }

end Extent

mutual

/-- The lengths of matches. -/
def extent : Expression → Extent
  | empty | boundary _ | look _ _ _ | restart | origin | known _ => ⟨0, true⟩
  | char _ => ⟨1, true⟩
  | seq parts => extentAll parts
  | alt [] => ⟨0, true⟩
  | alt (first :: others) => extentAny first.extent others
  | loop body low high _ =>
    let e := body.extent
    { least := e.least * low, fixed := e.fixed && high == some low }
  | group _ body | atomic body => body.extent
  | backref _ => ⟨0, false⟩
  | choice condition yes no =>
    let (c, y, n) := (condition.extent, yes.extent, no.extent)
    { least := c.least + min y.least n.least
      fixed := c.fixed && y.fixed && n.fixed && c.least + y.least == n.least }

/-- The lengths of matches of parts one after the other. -/
def extentAll : List Expression → Extent
  | [] => ⟨0, true⟩
  | e :: rest => e.extent.append (extentAll rest)

/-- The lengths of matches of alternatives; `before` is about those before. -/
def extentAny (before : Extent) : List Expression → Extent
  | [] => before
  | e :: rest => extentAny (before.either e.extent) rest

end

/-- The number of characters of every match, if there is one such number. -/
def size? (e : Expression) : Option Nat := if e.extent.fixed then some e.extent.least else none

mutual

/-- Whether every match is empty. -/
def isVacuous : Expression → Bool
  | empty | boundary _ | look _ _ _ | restart | origin | known _ => true
  | char _ | backref _ => false
  | seq parts => areVacuous parts
  | alt branches => areVacuous branches
  | loop body _ high _ => high == some 0 || body.isVacuous
  | group _ body | atomic body => body.isVacuous
  | choice condition yes no => condition.isVacuous && yes.isVacuous && no.isVacuous

/-- Whether every match of each of them is empty. -/
def areVacuous : List Expression → Bool
  | [] => true
  | e :: rest => e.isVacuous && areVacuous rest

end

/-! ## What an automaton can take over -/

mutual

/-- Whether the expression needs more than an automaton.  It does if it looks around, asks for word
edges, refers to a group or forbids to go back into a part; so does a group of varying length to
which some part refers, as another match of it may be needed later. -/
def isHard (referred : List Nat) : Expression → Bool
  | empty | char _ => false
  | boundary b => b.isWordEdge
  | seq parts => anyHard referred parts
  | alt branches => anyHard referred branches
  | loop body _ _ _ => body.isHard referred
  | group index body => body.isHard referred || (index ∈ referred && !body.extent.fixed)
  | backref _ | known _ | look _ _ _ | atomic _ | restart | origin | choice _ _ _ => true

/-- Whether one of them is hard. -/
def anyHard (referred : List Nat) : List Expression → Bool
  | [] => false
  | e :: rest => e.isHard referred || anyHard referred rest

end

mutual

/-- The groups that can be referred to. -/
def groups : Expression → List Nat
  | empty | char _ | boundary _ | backref _ | known _ | restart | origin => []
  | seq parts => groupsOf parts
  | alt branches => groupsOf branches
  | loop body _ _ _ | look _ _ body | atomic body => body.groups
  | group index body => index :: body.groups
  | choice condition yes no => condition.groups ++ yes.groups ++ no.groups

/-- The groups of all of them. -/
def groupsOf : List Expression → List Nat
  | [] => []
  | e :: rest => e.groups ++ groupsOf rest

end

/-- The bounds of a loop.  A body that can only match the empty string need not come twice. -/
def loopBounds (body : Expression) (low : Nat) (high : Option Nat) : Nat × Option Nat :=
  if body.isVacuous then (min low 1, some (min (high.getD 1) 1)) else (low, high)

end Expression

end ConfigCheck.Regex
