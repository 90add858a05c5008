import ConfigCheck.Regex.Places
import Std.Data.HashSet

/-!
# Automata

An automaton gives the first match of an expression that begins at a place: where several are
possible, alternatives and repetitions say which one comes first.  Its states lead to others without
looking back, so each pair of a state and a place is tried at most once (`Automaton.firstMatch`).
-/

namespace ConfigCheck.Regex

namespace Automaton

/-- What a state does. -/
inductive State where
  /-- Takes one character of a class. -/
  | char (k : CharClass) (next : Nat)
  /-- Asks for a condition. -/
  | check (b : Boundary) (next : Nat)
  /-- Tries one way, and then another one. -/
  | split (first second : Nat)
  /-- Notes the place. -/
  | note (slot next : Nat)
  /-- Ends a match. -/
  | accept
  /-- Ends without a match. -/
  | refuse
deriving Repr, Inhabited

/-- States while an automaton is built. -/
abbrev Building := StateM (Array State)

/-- Adds a state. -/
def add (s : State) : Building Nat := fun states => (states.size, states.push s)

/-- Puts a state in the place of another one. -/
def replace (i : Nat) (s : State) : Building Unit := fun states => ((), states.setIfInBounds i s)

/-- A fork between a body and what follows, the body first if `greedy`. -/
def forkOf (greedy : Bool) (body next : Nat) : State :=
  if greedy then .split body next else .split next body

/-- Builds `n` copies in front of `next`. -/
def copies (build : Nat → Building Nat) : (n : Nat) → (next : Nat) → Building Nat
  | 0, next => pure next
  | n + 1, next => do copies build n (← build next)

/-- Builds up to `n` copies in front of `next`, each of which can be the last one. -/
def options (build : Nat → Building Nat) (greedy : Bool) (exit : Nat) :
    (n : Nat) → (next : Nat) → Building Nat
  | 0, next => pure next
  | n + 1, next => do
    let body ← build next
    let fork ← add (forkOf greedy body exit)
    options build greedy exit n fork

/-- Builds one copy or more in front of `next`. -/
def oneOrMore (build : Nat → Building Nat) (greedy : Bool) (next : Nat) : Building (Nat × Nat) := do
  let fork ← add .refuse
  let body ← build fork
  replace fork (forkOf greedy body next)
  pure (body, fork)

/-- Builds a loop in front of `next`; `mayBeEmpty` says whether a round can take no character. -/
def loop (build : Nat → Building Nat) (mayBeEmpty : Bool) (low : Nat) (high : Option Nat)
    (greedy : Bool) (next : Nat) : Building Nat := do
  match high with
  | some high => do copies build low (← options build greedy next (high - low) next)
  | none =>
    let (body, fork) ← oneOrMore build greedy next
    if low = 0 then if mayBeEmpty then add (forkOf greedy body next) else pure fork
    else copies build (low - 1) body

end Automaton

namespace Expression

open Automaton

mutual

/-- Builds the states of an expression in front of `next` and gives the first one. -/
def build : Expression → (next : Nat) → Building Nat
  | empty, next => pure next
  | char k, next => add (.char k next)
  | boundary b, next => add (.check b next)
  | seq parts, next => buildAll parts next
  | alt branches, next => buildAny branches next
  | loop body low high greedy, next =>
    let (low, high) := loopBounds body low high
    Automaton.loop body.build (body.extent.least == 0) low high greedy next
  | group index body, next => do
    let close ← add (.note (2 * index + 1) next)
    let first ← body.build close
    add (.note (2 * index) first)
  | backref _, _ | known _, _ | look _ _ _, _ | atomic _, _ | restart, _ | origin, _
  | choice _ _ _, _ => add .refuse

/-- Builds expressions one after the other. -/
def buildAll : List Expression → (next : Nat) → Building Nat
  | [], next => pure next
  | e :: rest, next => do e.build (← buildAll rest next)

/-- Builds alternatives. -/
def buildAny : List Expression → (next : Nat) → Building Nat
  | [], _ => add .refuse
  | [e], next => e.build next
  | e :: rest, next => do
    let others ← buildAny rest next
    let first ← e.build next
    add (.split first others)

end

end Expression

/-- An automaton. -/
structure Automaton where
  /-- The states. -/
  states : Array Automaton.State
  /-- The first state. -/
  start : Nat
  /-- The groups of the expression. -/
  groups : List Nat
deriving Repr, Inhabited

namespace Automaton

/-- The automaton of expressions one after the other. -/
def ofParts (parts : List Expression) : Automaton :=
  let (start, states) := Expression.buildAll parts 0 #[.accept]
  { states, start, groups := Expression.groupsOf parts }

/-- A match: where it ends, and the places that were noted, the latest first. -/
structure Match where
  /-- The place behind it. -/
  stop : Nat
  /-- The slots and their places. -/
  notes : List (Nat × Nat)
deriving Repr, Inhabited

/-- A state to be tried at a place with the notes so far. -/
abbrev Attempt := Nat × Nat × List (Nat × Nat)

/-- What an attempt leads to: a match, or attempts to be made first. -/
def step (a : Automaton) (text : Subject) : Attempt → Except Match (List Attempt)
  | (s, i, notes) =>
    match a.states[s]? with
    | some (.char k next) =>
      match text[i]? with
      | some c => .ok (if k.contains c then [(next, i + 1, notes)] else [])
      | none => .ok []
    | some (.check b next) => .ok (if text.holds b i then [(next, i, notes)] else [])
    | some (.split first second) => .ok [(first, i, notes), (second, i, notes)]
    | some (.note slot next) => .ok [(next, i, (slot, i) :: notes)]
    | some .accept => .error { stop := i, notes }
    | some .refuse | none => .ok []

/-- Makes attempts in order until one ends in a match.  What was tried before is passed over, and
the number bounds the steps. -/
def explore (a : Automaton) (text : Subject) :
    Nat → Std.HashSet Nat → List Attempt → Option Match
  | 0, _, _ => none
  | _ + 1, _, [] => none
  | n + 1, tried, (s, i, notes) :: rest =>
    let key := s * (text.size + 1) + i
    if tried.contains key then explore a text n tried rest
    else
      match a.step text (s, i, notes) with
      | .error found => some found
      | .ok attempts => explore a text n (tried.insert key) (attempts ++ rest)

/-- The first match that begins at a place. -/
def firstMatch (a : Automaton) (text : Subject) (i : Nat) : Option Match :=
  a.explore text (2 * a.states.size * (text.size + 1) + 2) ∅ [(a.start, i, [])]

end Automaton

end ConfigCheck.Regex
