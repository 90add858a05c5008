import ConfigCheck.Regex.Backtrack
import ConfigCheck.Regex.Grammar
import ConfigCheck.Regex.Reader

/-!
# Patterns

A pattern as it is written and the way in which it is matched.
-/

namespace ConfigCheck.Regex

/-- How a pattern is matched. -/
inductive Matcher where
  /-- By moving sets of places. -/
  | places (e : Expression)
  /-- By a plan, which may have to go back. -/
  | plan (p : Plan)
deriving Repr, Inhabited

/-- How an expression is matched, if it can be; `referred` are the groups to which it refers. -/
def Matcher.ofExpression? (referred : List Nat) (e : Expression) : Option Matcher :=
  if e.isHard referred then (e.plan? referred).map .plan
  else if e.fitsAutomaton then some (.places e)
  else none

/-- A pattern that can be used. -/
structure Pattern where
  /-- The pattern as it is written. -/
  source : String
  /-- How it is matched. -/
  matcher : Matcher
deriving Repr, Inhabited

namespace Pattern

/-- Whether a text follows the grammar of patterns, or goes beyond it. -/
def isReadable (source : String) : Bool := (plainText? source.toList).isSome

/-- The pattern that a text writes, if it writes one that can be used. -/
def ofString? (source : String) : Option Pattern := do
  let (e, referred) ← readPattern (← plainText? source.toList)
  let matcher ← Matcher.ofExpression? referred e
  some { source, matcher }

/-- Whether the pattern matches somewhere in a text. -/
def matches? (p : Pattern) (text : String) : Except Exhausted Bool :=
  let subject : Subject := text.toList.toArray
  match p.matcher with
  | .places e => .ok (e.occurs subject)
  | .plan plan => plan.search subject

/-- Whether the pattern matches; a search without an answer counts as no match. -/
def accepts (p : Pattern) (text : String) : Bool :=
  match p.matches? text with
  | .ok b => b
  | .error _ => false

end Pattern

end ConfigCheck.Regex
