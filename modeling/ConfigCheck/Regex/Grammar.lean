import ConfigCheck.Regex.Bracket
import ConfigCheck.Text.Newest

/-!
# The grammar of patterns

A pattern is first held against a strict grammar, from left to right, up to its first fault.  Two
faults do not make it unusable: looking around and referring back to a group lie beyond this grammar
and are left to the reader, and a letter that is escaped as a control character is replaced by that
character (`plainText?`).

A pattern that follows the grammar means the ASCII digits and word characters by `\d` and `\w`, and
a fixed list of blanks by `\s`.  The scan therefore writes the pattern anew, with brackets that say
so.  A pattern that goes beyond the grammar keeps its escapes, and means the Unicode classes.
-/

namespace ConfigCheck.Regex

/-! ## Levels -/

/-- How many levels a pattern may have. -/
def maxHeight : Nat := 250

/-- What is known about the alternatives of a group up to a place. -/
structure Branches where
  /-- The number of alternatives before. -/
  closed : Nat := 0
  /-- How many levels they have. -/
  closedHeight : Nat := 0
  /-- The number of parts of this alternative. -/
  parts : Nat := 0
  /-- How many levels the parts before the last one have. -/
  partsHeight : Nat := 0
  /-- How many levels the last part has. -/
  lastHeight : Nat := 0
  /-- Whether the last part can be repeated. -/
  repeatable : Bool := false
deriving DecidableEq, Repr, Inhabited

namespace Branches

/-- Adds a part. -/
def add (b : Branches) (height : Nat) (repeatable : Bool) : Branches :=
  { b with
    parts := b.parts + 1
    partsHeight := max b.partsHeight b.lastHeight
    lastHeight := height
    repeatable }

/-- Repeats the last part. -/
def repeatLast (b : Branches) : Branches := { b with lastHeight := b.lastHeight + 1 }

/-- How many levels this alternative has: several parts are a level of their own. -/
def branchHeight (b : Branches) : Nat :=
  max b.partsHeight b.lastHeight + (if b.parts < 2 then 0 else 1)

/-- Begins the next alternative. -/
def next (b : Branches) : Branches :=
  { closed := b.closed + 1, closedHeight := max b.closedHeight b.branchHeight }

/-- How many levels all alternatives have: several of them are a level of their own. -/
def height (b : Branches) : Nat :=
  max b.closedHeight b.branchHeight + (if b.closed = 0 then 0 else 1)

end Branches

/-- What is known in front of the rest of a pattern. -/
structure Scan where
  /-- The alternatives around each open group, and whether blanks are left out there. -/
  outer : List (Bool × Branches) := []
  /-- The alternatives of the innermost group. -/
  here : Branches := {}
  /-- Whether blanks are left out. -/
  spaced : Bool := false
  /-- The names of the groups so far. -/
  names : List (List Char) := []
  /-- Whether the bell was met outside brackets, which is not part of the grammar. -/
  bell : Bool := false
deriving Repr, Inhabited

namespace Scan

/-- Adds a part that has no parts of its own. -/
def addPart (st : Scan) (height : Nat) : Scan := { st with here := st.here.add height true }

/-- Opens a group; `spaced` says whether blanks are left out in it. -/
def openGroup (st : Scan) (spaced : Bool) : Scan :=
  { st with outer := (st.spaced, st.here) :: st.outer, here := {}, spaced }

/-- Closes the innermost group. -/
def closeGroup? (st : Scan) : Option Scan :=
  match st.outer with
  | [] => none
  | (spaced, around) :: outer =>
    some { st with outer, spaced, here := around.add (st.here.height + 1) true }

/-- Whether the pattern can end here. -/
def isComplete (st : Scan) : Bool :=
  st.outer.isEmpty && !st.bell && st.here.height ≤ maxHeight

end Scan

/-! ## Parts of a pattern -/

/-- Whether a character can be part of the name of a group, or begin it. -/
def isNameChar (first : Bool) (c : Char) : Bool :=
  if first then c = '_' || Text.isAlphabetic c
  else c ∈ ['_', '.', '[', ']'] || Text.isAlphanumeric c

/-- Whether the characters are the name of a group. -/
def isGroupName : List Char → Bool
  | [] => false
  | c :: rest => isNameChar true c && rest.all (isNameChar false)

/-- Reads the name of a group up to its closing angle bracket. -/
def readGroupName? (s : List Char) : Option (List Char × List Char) :=
  let name := s.takeWhile (· != '>')
  match s.drop name.length with
  | _ :: rest => if isGroupName name then some (name, rest) else none
  | [] => none

/-- Reads a number of at most thirty-two bits with blanks around it. -/
def readDecimal? (spaced : Bool) (s : List Char) : Option (Nat × List Char) :=
  let (digits, rest) := takeAll spaced Char.isDigit (s.dropWhile Text.isBlank)
  let n := digits.foldl (fun n c => n * 10 + (c.toNat - '0'.toNat)) 0
  if digits = [] || 2 ^ 32 ≤ n then none else some (n, rest.dropWhile Text.isBlank)

/-- Reads a count behind its opening brace. -/
def readCount? (spaced : Bool) (s : List Char) : Option (List Char) := do
  let (low, rest) ← readDecimal? spaced (skipSpace spaced s)
  match rest with
  | '\x7d' :: after => some after
  | ',' :: after =>
    match skipSpace spaced after with
    | '\x7d' :: after => some after
    | after =>
      let (high, rest) ← readDecimal? spaced after
      match rest with
      | '\x7d' :: after => if low ≤ high then some after else none
      | _ => none
  | _ => none

/-- Drops a question mark, which makes a repetition lazy. -/
def dropLazy : List Char → List Char
  | '?' :: rest => rest
  | rest => rest

/-- Reads a repetition, if one is written here: the rest, or a fault if the count is wrong. -/
def readRepetition? (spaced : Bool) (s : List Char) : Option (Except Fault (List Char)) :=
  match s with
  | '?' :: rest | '*' :: rest | '+' :: rest => some (.ok (dropLazy rest))
  | '\x7b' :: rest =>
    match readCount? spaced rest with
    | some rest =>
      let lazyRest := skipSpace spaced rest
      some (.ok (if lazyRest.head? = some '?' then lazyRest.drop 1 else rest))
    | none => some (.error .malformed)
  | _ => none

/-- The flags in front of a group, or on their own. -/
structure FlagList where
  /-- The flags in reverse, with the dash in front of those that are cleared. -/
  seen : List Char := []
  /-- Whether the flag for leaving out blanks is set or cleared. -/
  spaced : Option Bool := none
deriving Repr, Inhabited

/-- Reads flags up to a colon or a closing bracket; the rest begins with it. -/
def readFlags? (flags : FlagList) : List Char → Option (FlagList × List Char)
  | [] => none
  | c :: rest =>
    if c = ':' || c = ')' then
      if flags.seen.head? = some '-' then none else some (flags, c :: rest)
    else if c ∈ flags.seen || c ∉ ['-', 'i', 'm', 's', 'U', 'u', 'R', 'x'] then none
    else
      readFlags? {
        seen := c :: flags.seen
        spaced := if c = 'x' then some ('-' ∉ flags.seen) else flags.spaced } rest

/-- Whether a group that begins like this looks around. -/
def looksAround : List Char → Bool
  | '?' :: '=' :: _ | '?' :: '!' :: _ | '?' :: '<' :: '=' :: _ | '?' :: '<' :: '!' :: _ => true
  | _ => false

/-- What is known behind the part at the front of a pattern, and the rest. -/
abbrev Scanned := Except Fault (Scan × List Char)

/-- Reads the beginning of a group behind its opening bracket, or flags on their own. -/
def scanGroup (st : Scan) (s : List Char) : Scanned :=
  let named (rest : List Char) : Scanned :=
    match readGroupName? rest with
    | some (name, rest) =>
      if name ∈ st.names then .error .malformed
      else .ok ({ st with names := name :: st.names }.openGroup st.spaced, rest)
    | none => .error .malformed
  if looksAround s then .error .beyond
  else
    match s with
    | '?' :: 'P' :: '<' :: rest => named rest
    | '?' :: '<' :: rest => named rest
    | '?' :: rest =>
      match readFlags? {} rest with
      | some (flags, ':' :: rest) => .ok (st.openGroup (flags.spaced.getD st.spaced), rest)
      | some (flags, _ :: rest) =>
        if flags.seen = [] then .error .malformed
        else
          .ok ({ st with spaced := flags.spaced.getD st.spaced, here := st.here.add 0 false }, rest)
      | _ => .error .malformed
    | rest => .ok (st.openGroup st.spaced, rest)

/-- Reads the part at the front of a pattern. -/
def scanPart (st : Scan) (s : List Char) : Scanned :=
  match readRepetition? st.spaced s with
  | some outcome =>
    if st.here.repeatable then
      outcome.map fun rest => ({ st with here := st.here.repeatLast }, rest)
    else .error .malformed
  | none =>
    match s with
    | [] => .ok (st, [])
    | '(' :: rest => scanGroup st (skipSpace st.spaced rest)
    | ')' :: rest =>
      match st.closeGroup? with
      | some st => .ok (st, rest)
      | none => .error .malformed
    | '|' :: rest => .ok ({ st with here := st.here.next }, rest)
    | '[' :: rest =>
      (ClassStyle.readBracket { spaced := st.spaced } rest).map fun (b, rest) =>
        (st.addPart b.height, rest)
    | '\\' :: rest =>
      (readEscape st.spaced rest).map fun (escape, rest) =>
        let bell := match escape with
          | .bell => true
          | _ => st.bell
        ({ st.addPart 0 with bell }, rest)
    | _ :: rest => .ok (st.addPart 0, rest)

/-! ## Writing a pattern anew -/

/-- The listed blanks, as they stand in brackets. -/
def listedBlanks : List Char :=
  [' ', '\t', '\n', '\r', '\x0b', '\x0c', '\u00a0', '\ufeff', '\u2003', '\u2029']

/-- The brackets that stand for the escape with a letter. -/
def bracketsFor? : Char → Option (List Char)
  | 'd' => some "[0-9]".toList
  | 'D' => some "[^0-9]".toList
  | 'w' => some "[A-Za-z0-9_]".toList
  | 'W' => some "[^A-Za-z0-9_]".toList
  | 's' => some ('[' :: listedBlanks ++ [']'])
  | 'S' => some ('[' :: '^' :: listedBlanks ++ [']'])
  | _ => none

/-- A part of a pattern with brackets for its escapes; `comment` says whether a comment has
begun. -/
def spellOut (spaced : Bool) : (comment : Bool) → List Char → List Char
  | _, [] => []
  | true, c :: rest => c :: spellOut spaced (c != '\n') rest
  | false, '\\' :: c :: rest =>
    (bracketsFor? c).getD ['\\', c] ++ spellOut spaced false rest
  | false, c :: rest => c :: spellOut spaced (spaced && c = '#') rest

/-- Holds the rest of a pattern against the grammar and gives it anew, behind `written`, which is in
reverse; the number bounds the steps. -/
def scanRest : Nat → Scan → (written s : List Char) → Except Fault (List Char)
  | 0, _, _, _ => .error .malformed
  | n + 1, st, written, s =>
    let front := skipSpace st.spaced s
    let skipped := (s.take (s.length - front.length)).reverse ++ written
    if front = [] then if st.isComplete then .ok skipped.reverse else .error .malformed
    else
      match scanPart st front with
      | .error fault => .error fault
      | .ok (next, rest) =>
        let part := spellOut st.spaced false (front.take (front.length - rest.length))
        scanRest n next (part.reverse ++ skipped) rest

/-- Holds a pattern against the grammar and gives it anew. -/
def scan (pattern : List Char) : Except Fault (List Char) :=
  scanRest (pattern.length + 1) {} [] pattern

/-- The pattern with the letter of a control escape, at the beginning of `rest`, and the two
characters before it replaced by the control character. -/
def replaceControl (pattern rest : List Char) : List Char :=
  let control : List Char := (rest.take 1).map fun l => Char.ofNat (l.toNat % 32)
  pattern.take (pattern.length - rest.length - 2) ++ control ++ rest.drop 1

/-- The text of a pattern as it is read; `none` if it is no regular expression.  The number bounds
how many control characters are replaced. -/
def plainTextFrom : Nat → List Char → Option (List Char)
  | 0, _ => none
  | n + 1, pattern =>
    match scan pattern with
    | .ok text => some text
    | .error .beyond => some pattern
    | .error .malformed => none
    | .error (.control rest) => plainTextFrom n (replaceControl pattern rest)

/-- The text of a pattern as it is read; `none` if it is no regular expression. -/
def plainText? (pattern : List Char) : Option (List Char) :=
  plainTextFrom (pattern.length + 1) pattern

end ConfigCheck.Regex
