import ConfigCheck.Regex.Expression

/-!
# Sets of places in a text

A text of `n` characters has `n + 1` places.  A set of places is a number whose bit `i` says
whether place `i` is in the set.  Against one text, a plain expression becomes a moving of sets,
from the places where it may begin to those where it may end, by shifts and bit operations
(`Expression.moves`, `Moves.apply`).  It never goes back, and each class meets each character once.
-/

namespace ConfigCheck.Regex

/-- A set of places, one bit for each. -/
abbrev Places := Nat

namespace Places

/-- The set of one place. -/
def single (i : Nat) : Places := 1 <<< i

/-- The places of a list of answers, the first one for place zero. -/
def ofBools : List Bool → Places
  | [] => 0
  | b :: rest => b.toNat + 2 * ofBools rest

/-- The first `n` places. -/
def first (n : Nat) : Places := (1 <<< n) - 1

end Places

/-- The character at an index, if there is one. -/
abbrev Subject := Array Char

namespace Subject

/-- Whether a word character stands at an index. -/
def isWordAt (text : Subject) (i : Nat) : Bool :=
  match text[i]? with
  | some c => CharClass.unicodeWord.contains c
  | none => false

/-- Whether a word character stands before a place. -/
def isWordBefore (text : Subject) (i : Nat) : Bool := 0 < i && isWordAt text (i - 1)

/-- Whether a condition holds at a place. -/
def holds (text : Subject) (b : Boundary) (i : Nat) : Bool :=
  match b with
  | .textStart => i = 0
  | .textEnd => i = text.size
  | .lineStart => i = 0 || text[i - 1]? = some '\n'
  | .lineEnd => i = text.size || text[i]? = some '\n'
  | .wordEdge => isWordBefore text i != isWordAt text i
  | .noWordEdge => isWordBefore text i == isWordAt text i
  | .wordStart => !isWordBefore text i && isWordAt text i
  | .wordEnd => isWordBefore text i && !isWordAt text i

/-- The places at which a condition holds. -/
def placesOf (text : Subject) (b : Boundary) : Places :=
  .ofBools <| (List.range (text.size + 1)).map (holds text b)

/-- The places behind which a character of a class stands. -/
def placesBefore (text : Subject) (k : CharClass) : Places :=
  .ofBools (text.toList.map k.contains)

end Subject

/-- What a plain expression does to sets of places of one text. -/
inductive Moves where
  /-- Nothing. -/
  | stay
  /-- Leaves no place. -/
  | never
  /-- Goes behind the next character, from these places. -/
  | step (places : Places)
  /-- Leaves these places only. -/
  | keep (places : Places)
  /-- One after the other. -/
  | seq (a b : Moves)
  /-- Both, collecting all places. -/
  | alt (a b : Moves)
  /-- Between `low` and `high` times. -/
  | loop (body : Moves) (low : Nat) (high : Option Nat)
deriving Repr, Inhabited

namespace Moves

/-- Applies a function until nothing changes any more, at most `n` times, collecting all places. -/
def closure (f : Places → Places) : Nat → Places → Places
  | 0, s => s
  | n + 1, s =>
    let t := s ||| f s
    if t = s then s else closure f n t

/-- Applies a function `n` times, or until nothing changes any more. -/
def repeatTimes (f : Places → Places) : Nat → Places → Places
  | 0, s => s
  | n + 1, s =>
    let t := f s
    if t = s then s else repeatTimes f n t

/-- The places to which a set of places moves in a text with `size` characters. -/
def apply (size : Nat) : Moves → Places → Places
  | stay, s => s
  | never, _ => 0
  | step places, s => (s &&& places) <<< 1
  | keep places, s => s &&& places
  | seq a b, s => b.apply size (a.apply size s)
  | alt a b, s => a.apply size s ||| b.apply size s
  | loop body low high, s =>
    let s := repeatTimes (body.apply size) low s
    closure (body.apply size) (match high with
      | none => size + 1
      | some high => high - low) s

end Moves

namespace Expression

mutual

/-- What a plain expression does to the places of a text. -/
def moves (text : Subject) : Expression → Moves
  | empty => .stay
  | char k => .step (Subject.placesBefore text k)
  | boundary b => .keep (Subject.placesOf text b)
  | seq parts => movesAll text parts
  | alt branches => movesAny text branches
  | loop body low high _ => .loop (body.moves text) low high
  | group _ body => body.moves text
  | backref _ | known _ | look _ _ _ | atomic _ | restart | origin | choice _ _ _ => .never

/-- What plain expressions do to the places of a text one after the other. -/
def movesAll (text : Subject) : List Expression → Moves
  | [] => .stay
  | e :: rest => .seq (e.moves text) (movesAll text rest)

/-- What plain expressions do to the places of a text as alternatives. -/
def movesAny (text : Subject) : List Expression → Moves
  | [] => .never
  | e :: rest => .alt (e.moves text) (movesAny text rest)

end

/-- Whether a plain expression matches anywhere in a text. -/
def occurs (text : Subject) (e : Expression) : Bool :=
  (e.moves text).apply text.size (Places.first (text.size + 1)) != 0

end Expression

end ConfigCheck.Regex
