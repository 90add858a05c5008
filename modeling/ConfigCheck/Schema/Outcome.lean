import ConfigCheck.Schema.Basic

/-!
# Outcomes

What looking at one value by a schema gives: the failures in order, and the members and items of
the value that count as looked at.  The value is valid if there are no failures; what counts as
looked at matters to the keywords for the rest only.
-/

namespace ConfigCheck.Schema

/-- What looking at a value by a schema, or a part of it, gives. -/
structure Outcome where
  /-- What is wrong, in order. -/
  failures : List Failure := []
  /-- The names of members that count as looked at. -/
  names : List String := []
  /-- The positions of items that count as looked at. -/
  positions : List Nat := []
deriving Repr, Inhabited

namespace Outcome

/-- Whether nothing is wrong. -/
def isValid (o : Outcome) : Bool := o.failures.isEmpty

/-- An outcome with failures only. -/
def ofFailures (failures : List Failure) : Outcome := { failures }

/-- A complaint about the value itself, by a keyword. -/
def complain (keyword : String) (complaint : Complaint) : Outcome :=
  ofFailures [{ place := [], rule := [keyword], complaint }]

/-- Nothing wrong, or a complaint by a keyword. -/
def demand (holds : Bool) (keyword : String) (complaint : Complaint) : Outcome :=
  if holds then {} else complain keyword complaint

/-- Both outcomes, the failures of the first one first. -/
def append (o p : Outcome) : Outcome where
  failures := o.failures ++ p.failures
  names := o.names ++ p.names
  positions := o.positions ++ p.positions

/-- All outcomes together. -/
def join (os : List Outcome) : Outcome where
  failures := os.flatMap failures
  names := os.flatMap names
  positions := os.flatMap positions

/-- The outcome as seen from around the schema. -/
def below (o : Outcome) (tokens : List String) : Outcome :=
  { o with failures := o.failures.map (Failure.below tokens) }

/-- The outcome of a member or item as seen from the value around it; what counts as looked at
inside does not count outside. -/
def inside (o : Outcome) (token : String) : Outcome :=
  ofFailures (o.failures.map (Failure.inside token))

/-- The outcome without what counts as looked at. -/
def unmarked (o : Outcome) : Outcome := ofFailures o.failures

/-- The outcome with these names counting as looked at. -/
def withNames (o : Outcome) (names : List String) : Outcome := { o with names }

/-- The outcome with these positions counting as looked at. -/
def withPositions (o : Outcome) (positions : List Nat) : Outcome := { o with positions }

/-- The names of those outcomes that are valid. -/
def validNames (os : List (String × Outcome)) : List String :=
  (os.filter fun (_, o) => o.isValid).map (·.1)

/-! ## Choices -/

/-- What a schema finds that applies to the same value as the schema around it. -/
structure Branch where
  /-- Whether the schema has keywords, and is not just a verdict. -/
  hasKeywords : Bool
  /-- What it finds. -/
  outcome : Outcome
deriving Repr, Inhabited

namespace Branch

/-- The outcomes of the branches with keywords; only these look at parts of the value. -/
def looking (bs : List Branch) : List Outcome := (bs.filter hasKeywords).map outcome

/-- The names of members that count as looked at by any of the branches with keywords. -/
def names (bs : List Branch) : List String := (looking bs).flatMap Outcome.names

/-- The positions of items that count as looked at by any of the branches with keywords. -/
def positions (bs : List Branch) : List Nat := (looking bs).flatMap Outcome.positions

/-- How many of the branches with keywords hold. -/
def tally (bs : List Branch) : Tally := .ofVerdicts ((looking bs).map isValid)

/-- Whether all branches with keywords hold. -/
def allHold (bs : List Branch) : Bool := (looking bs).all isValid

end Branch

/-- The outcome as a branch of the schema around it: a mere verdict looks at nothing. -/
def Branch.marked (b : Branch) : Outcome := if b.hasKeywords then b.outcome else b.outcome.unmarked

/-- Outcomes numbered from a position on. -/
def numbered (start : Nat) : List Outcome → List (Nat × Outcome)
  | [] => []
  | o :: os => (start, o) :: numbered (start + 1) os

/-- All branches.  If they hold, what any of them looks at counts. -/
def allOf (bs : List Branch) : Outcome where
  failures := (numbered 0 (bs.map Branch.outcome)).flatMap fun (i, o) =>
    (o.below ["allOf", toString i]).failures
  names := if Branch.allHold bs then Branch.names bs else []
  positions := if Branch.allHold bs then Branch.positions bs else []

/-- At least one branch.  If one holds, the members that any of them looks at count; the items
count only if all of them hold. -/
def anyOf (value : Json) (bs : List Branch) : Outcome where
  failures := (demand (bs.any (·.outcome.isValid)) "anyOf" (.anyOf value)).failures
  names := if Branch.tally bs = .none then [] else Branch.names bs
  positions := if Branch.allHold bs then Branch.positions bs else []

/-- Exactly one branch.  If just one holds, the members that it looks at count, and the items that
any of them looks at. -/
def oneOf (value : Json) (bs : List Branch) : Outcome where
  failures := match Tally.ofVerdicts (bs.map (·.outcome.isValid)) with
    | .none => (complain "oneOf" (.oneOfNone value)).failures
    | .one => []
    | .many => (complain "oneOf" (.oneOfMany value)).failures
  names := if Branch.tally bs = .one then
      ((Branch.looking bs).filter isValid).flatMap Outcome.names
    else []
  positions := if Branch.tally bs = .one then Branch.positions bs else []

/-- A condition with what follows from it if it holds and if it does not.  Only a condition with
keywords looks at parts of the value, and only then its consequences count. -/
def conditional (condition then_ else_ : Branch) : Outcome :=
  let holds := condition.outcome.isValid
  let consequence := if holds then then_.marked.below ["then"] else else_.marked.below ["else"]
  if !condition.hasKeywords then consequence.unmarked
  else if holds then { condition.outcome.append consequence with failures := consequence.failures }
  else consequence

/-- A condition alone demands nothing; what it looks at counts if it holds. -/
def condition (b : Branch) : Outcome :=
  if b.outcome.isValid then { b.marked with failures := [] } else {}

/-- A count of items that are as they should be, within bounds.  The upper bound is looked at
first; if there is none of either kind, one item is enough. -/
def countWithin (value : Json) (low high : Option Nat) (count : Nat) : Outcome :=
  match low, high with
  | none, none => demand (0 < count) "contains" (.contains value)
  | none, some high => demand (0 < count && count ≤ high) "maxContains" (.contains value)
  | some low, none => demand (low ≤ count) "minContains" (.contains value)
  | some low, some high =>
    if high < count then complain "maxContains" (.contains value)
    else demand (low ≤ count) "minContains" (.contains value)

end Outcome

/-! ## Keywords for the rest -/

/-- What one keyword finds.  The keywords for the rest cannot be settled before all others are. -/
inductive Finding where
  /-- The keyword is settled. -/
  | settled (outcome : Outcome)
  /-- The members that the schema for the rest would allow. -/
  | otherMembers (allowed : List String)
  /-- The items that the schema for the rest would allow. -/
  | otherItems (allowed : List Nat)

namespace Finding

/-- The outcome of the settled keywords. -/
def outcome : Finding → Outcome
  | settled o => o
  | otherMembers _ | otherItems _ => {}

/-- The items of a value with their positions. -/
def itemsOf : Json → List (Nat × Json)
  | .array items => (List.range items.length).zip items
  | _ => []

/-- Settles a finding, given what counts as looked at. -/
def settle (value : Json) (marks : Outcome) : Finding → Outcome
  | settled o => o
  | otherMembers allowed =>
    let rest := (value.members.map (·.1)).filter fun n => !(n ∈ marks.names || n ∈ allowed)
    (Outcome.demand rest.isEmpty "unevaluatedProperties" (.unevaluatedProperties rest)).withNames
      allowed
  | otherItems allowed =>
    let left := (itemsOf value).filter fun (i, _) => !(i ∈ marks.positions || i ∈ allowed)
    let rest := left.map (·.2)
    (Outcome.demand rest.isEmpty "unevaluatedItems" (.unevaluatedItems rest)).withPositions allowed

end Finding

/-- The outcome of a schema from what its keywords find. -/
def Outcome.ofFindings (value : Json) (findings : List Finding) : Outcome :=
  let marks := Outcome.join (findings.map Finding.outcome)
  Outcome.join (findings.map (Finding.settle value marks))

end ConfigCheck.Schema
