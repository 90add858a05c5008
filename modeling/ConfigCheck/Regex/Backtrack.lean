import ConfigCheck.Regex.Plan

/-!
# Matching by going back

A plan is matched by trying its choices in order and going back to the latest open choice after each
failure.  The number of failures is limited, and so is the number of open choices; a search that
goes beyond a limit has no answer.
-/

namespace ConfigCheck.Regex

/-- What remains to be done on one way through a plan. -/
inductive Task where
  /-- Match a plan. -/
  | run (p : Plan)
  /-- Go round a loop again after `count` rounds. -/
  | again (body : Plan) (low : Nat) (high : Option Nat) (greedy : Bool) (count : Nat)
  /-- Go round a loop again after `count` rounds, unless the last one took no character. -/
  | round (slot : Nat) (body : Plan) (low : Nat) (greedy : Bool) (count : Nat)
  /-- End a group. -/
  | close (index : Nat)
  /-- Go back to a place without undoing anything else. -/
  | moveTo (place : Nat)
  /-- Give up all choices above the height that was noted last. -/
  | commit
  /-- Give up all choices above a height and fail. -/
  | refuse (height : Nat)

/-- One way through a plan, at a place. -/
structure Way where
  /-- What remains to be done, first things first. -/
  tasks : List Task
  /-- The place in the text. -/
  place : Nat
  /-- Where groups begin and end, the latest first; a group can lose its places again. -/
  slots : List (Nat × Option Nat) := []
  /-- The places that loops have noted, the latest first. -/
  rounds : List (Nat × Nat) := []
  /-- The heights of open choices that were noted, the latest first. -/
  heights : List Nat := []

/-- The characters of a text between two places. -/
def Subject.between (text : Subject) (i j : Nat) : List Char := (text.extract i j).toList

/-- The ways that are still open. -/
structure Choices where
  /-- The ways, the latest first. -/
  ways : List Way
  /-- How many there are. -/
  height : Nat

namespace Choices

/-- One more choice. -/
def push (choices : Choices) (w : Way) : Choices := ⟨w :: choices.ways, choices.height + 1⟩

/-- The lowest choices up to a height. -/
def cutTo (choices : Choices) (height : Nat) : Choices :=
  ⟨choices.ways.drop (choices.height - height), min choices.height height⟩

end Choices

/-- What one step leads to. -/
inductive Outcome where
  /-- The whole plan has matched. -/
  | found
  /-- This way ends here. -/
  | fail (choices : Choices)
  /-- This way goes on; the choices are the other ways still open. -/
  | go (way : Way) (choices : Choices)

namespace Way

/-- The place in a slot, if there is one. -/
def slot? (w : Way) (slot : Nat) : Option Nat := (w.slots.lookup slot).join

/-- Sets or clears a slot. -/
def setSlot (w : Way) (slot : Nat) (place : Option Nat) : Way :=
  { w with slots := (slot, place) :: w.slots }

/-- Goes where an automaton has led, with the places of its groups. -/
def follow (w : Way) (groups : List Nat) (m : Automaton.Match) : Way :=
  let slots := groups.flatMap fun g => [2 * g, 2 * g + 1]
  { w with place := m.stop, slots := slots.map (fun s => (s, m.notes.lookup s)) ++ w.slots }

/-- Tries one list of tasks, and then another one, or the other way round. -/
def fork (w : Way) (inOrder : Bool) (first second : List Task) (choices : Choices) : Outcome :=
  let (a, b) := if inOrder then (first, second) else (second, first)
  .go { w with tasks := a } (choices.push { w with tasks := b })

/-- Matches a plan and then does the tasks. -/
def run (text : Subject) (w : Way) (choices : Choices) (tasks : List Task) : Plan → Outcome
  | .automaton a =>
    match a.firstMatch text w.place with
    | some m => .go ({ w with tasks }.follow a.groups m) choices
    | none => .fail choices
  | .char k =>
    match text[w.place]? with
    | some c =>
      if k.contains c then .go { w with tasks, place := w.place + 1 } choices else .fail choices
    | none => .fail choices
  | .check b => if text.holds b w.place then .go { w with tasks } choices else .fail choices
  | .seq parts => .go { w with tasks := parts.map .run ++ tasks } choices
  | .alt [] => .fail choices
  | .alt [p] => .go { w with tasks := .run p :: tasks } choices
  | .alt (p :: rest) => w.fork true (.run p :: tasks) (.run (.alt rest) :: tasks) choices
  | .optional body greedy => w.fork greedy (.run body :: tasks) tasks choices
  | .star body greedy =>
    w.fork greedy (.run body :: .run (.star body greedy) :: tasks) tasks choices
  | .counted body low high greedy =>
    .go { w with tasks := .again body low high greedy 0 :: tasks } choices
  | .rounds slot body low greedy =>
    .go { w with tasks := .round slot body low greedy 0 :: tasks } choices
  | .group index body =>
    .go { w.setSlot (2 * index) (some w.place) with tasks := .run body :: .close index :: tasks }
      choices
  | .backref index =>
    match w.slot? (2 * index), w.slot? (2 * index + 1) with
    | some i, some j =>
      let part := text.between i j
      if text.between w.place (w.place + part.length) = part then
        .go { w with tasks, place := w.place + part.length } choices
      else .fail choices
    | _, _ => .fail choices
  | .known index =>
    if (w.slot? (2 * index)).isSome then .go { w with tasks } choices else .fail choices
  | .look negative back body =>
    let ahead (tasks : List Task) (choices : Choices) : Outcome :=
      if back ≤ w.place then .go { w with tasks, place := w.place - back } choices
      else .fail choices
    if negative then
      ahead [.run body, .refuse choices.height] (choices.push { w with tasks })
    else ahead (.run body :: .moveTo w.place :: tasks) choices
  | .atomic body =>
    .go { w with
      tasks := .run body :: .commit :: tasks
      heights := choices.height :: w.heights } choices
  | .restart => .go { w.setSlot 0 (some w.place) with tasks } choices
  | .origin => if w.place = 0 then .go { w with tasks } choices else .fail choices
  | .choice condition yes no =>
    { w with heights := choices.height :: w.heights }.fork true
      (.run condition :: .commit :: .run yes :: tasks) (.run no :: tasks) choices

/-- One step of a way. -/
def step (text : Subject) (w : Way) (choices : Choices) : Outcome :=
  match w.tasks with
  | [] => .found
  | task :: tasks =>
    match task with
    | .run p => w.run text choices tasks p
    | .again body low high greedy count =>
      let next : List Task := .run body :: .again body low high greedy (count + 1) :: tasks
      if high = some count then .go { w with tasks } choices
      else if count < low then .go { w with tasks := next } choices
      else w.fork greedy next tasks choices
    | .round slot body low greedy count =>
      let next : List Task := .run body :: .round slot body low greedy (count + 1) :: tasks
      if 0 < count && w.rounds.lookup slot = some w.place then .fail choices
      else if count < low then .go { w with tasks := next } choices
      else { w with rounds := (slot, w.place) :: w.rounds }.fork greedy next tasks choices
    | .close index => .go { w.setSlot (2 * index + 1) (some w.place) with tasks } choices
    | .moveTo place => .go { w with tasks, place } choices
    | .commit =>
      match w.heights with
      | height :: heights => .go { w with tasks, heights } (choices.cutTo height)
      | [] => .go { w with tasks } choices
    | .refuse height => .fail (choices.cutTo height)

end Way

/-- A limit was reached, so there is no answer. -/
inductive Exhausted where
  /-- There were too many failures. -/
  | failures
  /-- There were too many open choices. -/
  | choices
deriving DecidableEq, Repr, Inhabited

/-- What is said about a search without an answer. -/
def Exhausted.message : Exhausted → String
  | failures => "Error executing regex: Max limit for backtracking count exceeded"
  | choices => "Error executing regex: Max stack size exceeded for backtracking"

/-- How many failures a search may have. -/
def failureLimit : Nat := 1000000

/-- How many choices may be open at once. -/
def choiceLimit : Nat := 1000000

/-- Follows ways until one arrives or none is left; `steps` and `failures` are what may still be
spent. -/
def follow (text : Subject) : (steps failures : Nat) → Way → Choices → Except Exhausted Bool
  | 0, _, _, _ => .error .failures
  | n + 1, failures, w, choices =>
    match w.step text choices with
    | .found => .ok true
    | .go w choices =>
      if choiceLimit < choices.height then .error .choices else follow text n failures w choices
    | .fail ⟨[], _⟩ => .ok false
    | .fail ⟨w :: ways, height⟩ =>
      if failures = 0 then .error .failures
      else follow text n (failures - 1) w ⟨ways, height - 1⟩

/-- Looks for a match at each place in turn. -/
def Plan.search (text : Subject) (p : Plan) : Except Exhausted Bool :=
  let ways := (List.range (text.size + 1)).map fun i =>
    ({ tasks := [.run p], place := i, slots := [(0, some i)] } : Way)
  match ways with
  | [] => .ok false
  | w :: ways => follow text (failureLimit * 1000) failureLimit w ⟨ways, ways.length⟩

end ConfigCheck.Regex
