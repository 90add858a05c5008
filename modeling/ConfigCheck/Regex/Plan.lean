import ConfigCheck.Regex.Automaton
import ConfigCheck.Regex.Footprint

/-!
# Plans

How an expression is matched that no automaton can match: its hard parts by going back, the parts
between them by automata (`Expression.plan`).  An automaton gives its first match and no other, so a
part is only left to one where another match of it cannot be needed: at the front and at the end of
a sequence as long as the length is fixed, and wherever nothing behind the part can still fail it.

There is no plan if something of varying length is looked for behind a place, or if an automaton
would be too large.
-/

namespace ConfigCheck.Regex

/-- How an expression is matched. -/
inductive Plan where
  /-- The first match of an automaton. -/
  | automaton (a : Automaton)
  /-- One character of a class. -/
  | char (k : CharClass)
  /-- A condition on the place. -/
  | check (b : Boundary)
  /-- One after the other. -/
  | seq (parts : List Plan)
  /-- One of several, the first ones first. -/
  | alt (branches : List Plan)
  /-- Once or not at all. -/
  | optional (body : Plan) (greedy : Bool)
  /-- Any number of times; each round takes a character. -/
  | star (body : Plan) (greedy : Bool)
  /-- At least `low` times and at most `high` times, counting the rounds. -/
  | counted (body : Plan) (low : Nat) (high : Option Nat) (greedy : Bool)
  /-- At least `low` times.  A round from the place that was noted last under `slot` is refused. -/
  | rounds (slot : Nat) (body : Plan) (low : Nat) (greedy : Bool)
  /-- A group that can be referred to. -/
  | group (index : Nat) (body : Plan)
  /-- What the group has matched. -/
  | backref (index : Nat)
  /-- The group has begun. -/
  | known (index : Nat)
  /-- What begins `back` characters before the place matches or does not; it takes no character. -/
  | look (negative : Bool) (back : Nat) (body : Plan)
  /-- The first match of the body and no other. -/
  | atomic (body : Plan)
  /-- The match begins here. -/
  | restart
  /-- The place where the search began. -/
  | origin
  /-- One plan if a condition matches, and another one if it does not. -/
  | choice (condition yes no : Plan)
deriving Repr, Inhabited

/-- Plans are made with a number for each loop that notes places, unless there is none. -/
abbrev Planning := StateT Nat Option

namespace Planning

/-- A number that was not given before. -/
def fresh : Planning Nat := fun n => some (n, n + 1)

/-- There is no plan. -/
def none {α : Type} : Planning α := fun _ => Option.none

/-- Leaves parts to an automaton, if there are any. -/
def delegate (parts : List Expression) : Planning (List Plan) :=
  if parts = [] then pure []
  else if (Expression.seq parts).fitsAutomaton then pure [.automaton (.ofParts parts)]
  else none

/-- The plan of a loop, given that of its body. -/
def loop (extent : Expression.Extent) (body : Plan) (low : Nat) (high : Option Nat)
    (greedy : Bool) : Planning Plan := do
  match low, high with
  | 0, some 1 => pure (.optional body greedy)
  | low, Option.none =>
    if extent.least = 0 then pure (.rounds (← fresh) body low greedy)
    else if low = 0 then pure (.star body greedy)
    else if low = 1 then pure (.seq [body, .star body greedy])
    else pure (.counted body low Option.none greedy)
  | low, high => pure (.counted body low high greedy)

/-- The plan for looking at what has the given length before a place, or at what follows it. -/
def look (behind negative : Bool) (extent : Expression.Extent) (body : Planning Plan) :
    Planning Plan := do
  if !behind then pure (.look negative 0 (← body))
  else if extent.fixed then pure (.look negative extent.least (← body))
  else none

end Planning

/-- How the parts of a sequence are matched: so many at the front by one automaton, so many at the
end by another one. -/
structure Division where
  /-- The number of parts at the front. -/
  front : Nat
  /-- The number of parts at the end. -/
  back : Nat
deriving DecidableEq, Repr, Inhabited

/-- Divides the parts of a sequence.  If what follows may have to go back into the sequence, as
`hard` says, the parts at the end must have a fixed length too. -/
def Division.ofParts (referred : List Nat) (hard : Bool) (parts : List Expression) : Division :=
  let easy (e : Expression) : Bool := !e.isHard referred
  let sized (e : Expression) : Bool := easy e && e.extent.fixed
  let front := (parts.takeWhile sized).length
  { front, back := ((parts.drop front).reverse.takeWhile (if hard then sized else easy)).length }

namespace Expression

mutual

/-- The plan of an expression; `hard` says that what follows may have to go back into it. -/
def plan (referred : List Nat) (hard : Bool) (e : Expression) : Planning Plan := do
  if !hard && !e.isHard referred then pure (.seq (← Planning.delegate [e]))
  else
    match e with
    | empty => pure (.seq [])
    | char k => pure (.char k)
    | boundary b => pure (.check b)
    | seq parts => do
      let d := Division.ofParts referred hard parts
      let middle := parts.length - d.front - d.back
      let front ← Planning.delegate (parts.take d.front)
      let plans ← (((plans referred true parts).drop d.front).take middle).mapM id
      let back ← Planning.delegate (parts.drop (d.front + middle))
      pure (.seq (front ++ plans ++ back))
    | alt branches => do
      let plans ← (plans referred hard branches).mapM id
      pure (.alt plans)
    | loop body low high greedy => do
      let inner := if low = 0 && high = some 1 then hard else hard || body.isHard referred
      let plan ← body.plan referred inner
      Planning.loop body.extent plan low high greedy
    | group index body => do
      let plan ← body.plan referred hard
      pure (.group index plan)
    | backref index => pure (.backref index)
    | known index => pure (.known index)
    | look behind negative body =>
      match behind && !body.extent.fixed, body with
      | true, alt branches => do
        let looks := branches.zip (plans referred false branches)
        let looks ← looks.mapM fun (e, plan) => Planning.look true negative e.extent plan
        pure (if negative then .seq looks else .alt looks)
      | _, body => Planning.look behind negative body.extent (body.plan referred false)
    | atomic body => do
      let plan ← body.plan referred false
      pure (.atomic plan)
    | restart => pure .restart
    | origin => pure .origin
    | choice condition yes no => do
      let condition ← condition.plan referred hard
      let yes ← yes.plan referred hard
      let no ← no.plan referred hard
      pure (.choice condition yes no)

/-- The plans of expressions. -/
def plans (referred : List Nat) (hard : Bool) : List Expression → List (Planning Plan)
  | [] => []
  | e :: rest => e.plan referred hard :: plans referred hard rest

end

/-- The plan of a whole pattern, if there is one. -/
def plan? (referred : List Nat) (e : Expression) : Option Plan :=
  ((e.plan referred true).run 0).map (·.1)

end Expression

end ConfigCheck.Regex
