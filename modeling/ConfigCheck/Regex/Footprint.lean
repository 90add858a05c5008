import ConfigCheck.Regex.Expression
import ConfigCheck.Regex.Octets

/-!
# How large an automaton is

An expression is refused if the automaton for it would take too much room.  Two automata count, one
that reads the bytes of a text forwards and one that reads them backwards (`Footprint`).  Each state
takes 32 bytes, each range of bytes 8 more and each way out of a fork 4 more.
-/

namespace ConfigCheck.Regex

/-- The room that automata take, in bytes. -/
structure Footprint where
  /-- Reading forwards. -/
  forwards : Nat
  /-- Reading backwards. -/
  backwards : Nat
deriving DecidableEq, Repr, Inhabited

namespace Footprint

/-- The same room in both directions. -/
def both (n : Nat) : Footprint := ⟨n, n⟩

/-- No room. -/
def none : Footprint := both 0

/-- One state. -/
def state : Footprint := both 32

/-- A fork with two ways. -/
def fork : Footprint := both 40

instance : Add Footprint := ⟨fun f g => ⟨f.forwards + g.forwards, f.backwards + g.backwards⟩⟩

/-- The room for so many copies. -/
def times (n : Nat) (f : Footprint) : Footprint := ⟨n * f.forwards, n * f.backwards⟩

/-- The room for one character of sorted ranges. -/
def ofRanges (ranges : CodeRanges) : Footprint :=
  match ranges with
  | [] => state
  | ranges =>
    let sequences := Octets.ofRanges ranges
    if ranges.size = 1 then both (32 * sequences.flatten.length)
    else if ranges.all fun (_, b) => b < 0x80 then both (64 + 8 * ranges.length)
    else
      { forwards := (Octets.sharedEnds sequences).foldl (fun n j => n + 32 + 8 * j.length) 32
        backwards := 64 + 4 * sequences.length + 32 * Octets.beginnings [] sequences }

/-- The room for a loop around a body, by the bounds of the loop; `mayBeEmpty` says whether the body
can match the empty string. -/
def loop (body : Footprint) (mayBeEmpty : Bool) (low : Nat) : (high : Option Nat) → Footprint
  | .none =>
    if low = 0 then if mayBeEmpty then body + both 112 else body + fork
    else times low body + fork
  | some high =>
    if high = 0 then state
    else if low = 0 && high = 1 then body + fork + state
    else if low = high then times low body
    else
      (if low = 0 then state else times low body) + state + times (high - low) (body + fork)

end Footprint

/-- The classes of expressions if each of them is one character. -/
def classesOf? : List Expression → Option (List CharClass)
  | [] => some []
  | .char k :: rest => (classesOf? rest).map (k :: ·)
  | _ :: _ => none

/-- The room for alternatives of one character: they are one class, unless some of them are classes
and some are single characters. -/
def classFootprint? (branches : List Expression) : Option Footprint := do
  let ranges := (← classesOf? branches).map CharClass.ranges
  if ranges.all (·.size = 1) || ranges.all (·.size != 1) then
    some (.ofRanges (CodeRanges.normal ranges.flatten))
  else none

namespace Expression

mutual

/-- The room that an expression takes. -/
def footprint : Expression → Footprint
  | char k => .ofRanges k.ranges
  | seq parts => footprintAll parts
  | alt branches =>
    (classFootprint? branches).getD <|
      .both (64 + 4 * branches.length) + footprintAll branches
  | loop body low high _ =>
    let (low, high) := loopBounds body low high
    body.footprint.loop (body.extent.least == 0) low high
  | group _ body => ⟨64, 0⟩ + body.footprint
  | empty | boundary _ | backref _ | known _ | look _ _ _ | atomic _ | restart | origin
  | choice _ _ _ => .state

/-- The room that expressions take together. -/
def footprintAll : List Expression → Footprint
  | [] => .none
  | e :: rest => e.footprint + footprintAll rest

end

mutual

/-- Whether all counts are numbers of at most thirty-two bits and in order. -/
def isCounted : Expression → Bool
  | loop body low high _ =>
    body.isCounted && decide (low < 2 ^ 32) &&
      match high with
      | some high => decide (low ≤ high) && decide (high < 2 ^ 32)
      | none => true
  | seq parts => areCounted parts
  | alt branches => areCounted branches
  | group _ body | atomic body | look _ _ body => body.isCounted
  | choice condition yes no => condition.isCounted && yes.isCounted && no.isCounted
  | empty | char _ | boundary _ | backref _ | known _ | restart | origin => true

/-- Whether that is true of each of them. -/
def areCounted : List Expression → Bool
  | [] => true
  | e :: rest => e.isCounted && areCounted rest

end

/-- How much room an automaton may take: ten mebibytes. -/
def maxFootprint : Nat := 10 * 2 ^ 20

/-- Whether an automaton can match the expression.  To search in both directions takes a few states
more. -/
def fitsAutomaton (e : Expression) : Bool :=
  e.isCounted &&
    let f := e.footprint
    f.forwards + 208 ≤ maxFootprint && f.backwards + 144 ≤ maxFootprint

end Expression

end ConfigCheck.Regex
