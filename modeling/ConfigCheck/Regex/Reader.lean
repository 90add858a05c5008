import ConfigCheck.Regex.Bracket
import ConfigCheck.Regex.Expression
import ConfigCheck.Text.Newest

/-!
# Reading patterns

A pattern that is no worse than beyond the strict grammar is read into an expression.  This reader
knows more than the grammar: looking around, references, conditions, parts that forbid to go back,
comments in round brackets.  Braces that hold no count, or that follow a count, stand for
themselves.
-/

namespace ConfigCheck.Regex

/-- How the rest of a pattern is read. -/
structure Flags where
  /-- Whether case is ignored. -/
  ignoreCase : Bool := false
  /-- Whether lines have a beginning and an end. -/
  multiLine : Bool := false
  /-- Whether a full stop matches a line feed. -/
  dotAll : Bool := false
  /-- Whether blanks and comments in the pattern are left out. -/
  spaced : Bool := false
  /-- Whether a repetition is lazy without a question mark, and greedy with one. -/
  swapped : Bool := false
deriving DecidableEq, Repr, Inhabited

/-- Sets or clears a flag; `none` if there is no such flag. -/
def Flags.set? (flags : Flags) (value : Bool) : Char → Option Flags
  | 'i' => some { flags with ignoreCase := value }
  | 'm' => some { flags with multiLine := value }
  | 's' => some { flags with dotAll := value }
  | 'x' => some { flags with spaced := value }
  | 'U' => some { flags with swapped := value }
  | 'u' => if value then some flags else none
  | _ => none

/-- What reading has met so far. -/
structure Progress where
  /-- How the rest is read. -/
  flags : Flags := {}
  /-- Only groups with smaller numbers can be referred to by number. -/
  limit : Nat
  /-- The number of groups that have begun. -/
  groups : Nat := 0
  /-- The named groups, the latest first. -/
  names : List (List Char × Nat) := []
  /-- Whether a group was referred to by its number alone. -/
  numbered : Bool := false
  /-- The groups that were referred to. -/
  referred : List Nat := []
deriving Repr, Inhabited

/-- What has been read, the progress, and the rest of the pattern. -/
abbrev Reading (α : Type) := α × Progress × List Char

/-- How many groups may be open at once. -/
def maxNesting : Nat := 63

/-! ## Gaps -/

/-- What is being left out. -/
inductive Gap where
  /-- Nothing yet. -/
  | none
  /-- A comment up to the end of the line. -/
  | line
  /-- A comment in round brackets. -/
  | remark
deriving DecidableEq, Repr, Inhabited

/-- The rest of a pattern behind comments in round brackets and, where they are left out, blanks and
comments up to the end of a line; `none` if a comment does not end. -/
def dropGaps (spaced : Bool) : Gap → List Char → Option (List Char)
  | .none, [] | .line, [] => some []
  | .remark, [] => none
  | .none, '(' :: '?' :: '#' :: rest => dropGaps spaced .remark rest
  | .none, c :: rest =>
    if spaced && c = '#' then dropGaps spaced .line rest
    else if spaced && c ∈ [' ', '\r', '\n', '\t'] then dropGaps spaced .none rest
    else some (c :: rest)
  | .line, c :: rest => dropGaps spaced (if c = '\n' then .none else .line) rest
  | .remark, '\\' :: _ :: rest => dropGaps spaced .remark rest
  | .remark, c :: rest => dropGaps spaced (if c = ')' then .none else .remark) rest

/-- The rest of a pattern behind a gap. -/
def Progress.skip? (p : Progress) (s : List Char) : Option (List Char) :=
  dropGaps p.flags.spaced .none s

/-! ## Counts -/

/-- Reads a number of at most sixty-four bits. -/
def readNumber? (s : List Char) : Option (Nat × List Char) :=
  let digits := s.takeWhile Char.isDigit
  let n := digits.foldl (fun n c => n * 10 + (c.toNat - '0'.toNat)) 0
  if digits = [] || 2 ^ 64 ≤ n then none else some (n, s.drop digits.length)

/-- The largest number of sixty-four bits stands for no bound. -/
def boundOf (n : Nat) : Option Nat := if n + 1 = 2 ^ 64 then none else some n

/-- Reads a count behind its opening brace. -/
def readBounds? (p : Progress) (s : List Char) : Option (Nat × Option Nat × List Char) := do
  let s ← p.skip? s
  let (low, rest) ← if s.head? = some ',' then some (0, s) else readNumber? s
  match ← p.skip? rest with
  | '\x7d' :: rest => some (low, boundOf low, rest)
  | ',' :: rest =>
    let rest ← p.skip? rest
    let (high, rest) := match readNumber? rest with
      | some (high, rest) => (boundOf high, rest)
      | none => (none, rest)
    match ← p.skip? rest with
    | '\x7d' :: rest => some (low, high, rest)
    | _ => none
  | _ => none

/-- Reads what makes a repetition of the part before it: bounds and the rest. -/
def readQuantifier? (p : Progress) (s : List Char) : Option (Nat × Option Nat × List Char) :=
  match s with
  | '?' :: rest => some (0, some 1, rest)
  | '*' :: rest => some (0, none, rest)
  | '+' :: rest => some (1, none, rest)
  | '\x7b' :: rest => readBounds? p rest
  | _ => none

/-! ## References -/

/-- Reads a name up to the character that closes it; a dash may come first if `relative` allows
it. -/
def readName? (relative : Bool) (close : Char) (s : List Char) : Option (List Char × List Char) :=
  let sign := s.take (if relative && s.head? = some '-' then 1 else 0)
  let s := s.drop sign.length
  let name := s.takeWhile fun c => c = '_' || Text.isAlphanumeric c
  match name, s.drop name.length with
  | _ :: _, c :: rest => if c = close then some (sign ++ name, rest) else none
  | _, _ => none

/-- The group that a name or a number means; numbers with a dash count back from the last group. -/
def Progress.groupOf? (p : Progress) (name : List Char) : Option Nat :=
  (p.names.lookup name).or <|
    match name with
    | '-' :: digits =>
      match readNumber? digits with
      | some (n, []) => if n = 0 then some 0 else if n ≤ p.groups + 1 then some (p.groups + 1 - n)
          else none
      | _ => none
    | digits =>
      match readNumber? digits with
      | some (n, []) => some n
      | _ => none

/-- A reference to a group that has begun. -/
def refer (p : Progress) (n : Nat) (rest : List Char) : Option (Reading Expression) :=
  if n ≤ p.groups then some (.backref n, { p with referred := n :: p.referred }, rest) else none

/-- Reads a reference by number. -/
def readNumbered (p : Progress) (s : List Char) : Option (Reading Expression) :=
  match readNumber? s with
  | some (n, rest) => if n < p.limit then refer { p with numbered := true } n rest else none
  | none => none

/-- Reads a reference by name. -/
def readNamed (p : Progress) (relative : Bool) (close : Char) (s : List Char) :
    Option (Reading Expression) := do
  let (name, rest) ← readName? relative close s
  let n ← p.groupOf? name
  refer p n rest

/-- Reads a reference by name in angle brackets or between apostrophes. -/
def readDelimited (p : Progress) (s : List Char) : Option (Reading Expression) :=
  match s with
  | '<' :: rest => readNamed p true '>' rest
  | '\'' :: rest => readNamed p true '\'' rest
  | _ => none

/-! ## Escapes and classes -/

/-- Reads a character by its code point: as many digits as `width` says, or at most eight in
braces. -/
def readCode? (width : Nat) (s : List Char) : Option (Char × List Char) :=
  let digits := s.take width
  if digits.length = width && digits.all isHex then
    (charOfHex? digits).map fun c => (c, s.drop width)
  else
    match s with
    | '\x7b' :: rest =>
      let digits := rest.takeWhile isHex
      match rest.drop digits.length with
      | '\x7d' :: after =>
        if digits.length ≤ 8 then (charOfHex? digits).map fun c => (c, after) else none
      | _ => none
    | _ => none

/-- The character that stands for itself, or that a letter means, behind a backslash. -/
def literalOf? (inBrackets : Bool) (c : Char) : Option Char :=
  match c with
  | 'a' => some '\x07'
  | 'e' => some '\x1b'
  | 'f' => some '\x0c'
  | 'n' => some '\n'
  | 'r' => some '\r'
  | 't' => some '\t'
  | 'v' => some '\x0b'
  | 'b' => some (if inBrackets then '\x08' else c)
  | c => if c.isAlpha && c ∉ ['k', 'A', 'z', 'B', 'K', 'G'] then none else some c

/-- Whether a character has a meaning of its own in some part of a pattern. -/
def isMeta (c : Char) : Bool := c ∈ "\\.+*?()|[]\x7b\x7d^$#&-~".toList

/-- A character as it is written inside brackets to stand for itself. -/
def quoted (c : Char) : List Char := if isMeta c then ['\\', c] else [c]

/-- Reads an escape inside brackets behind its backslash and gives it in the spelling of the
grammar. -/
def readClassEscape (s : List Char) : Option (List Char × List Char) :=
  match s with
  | [] => none
  | c :: rest =>
    if c.isDigit then none
    else if c ∈ ['d', 'D', 's', 'S', 'w', 'W'] then some (['\\', c], rest)
    else if c = 'h' then some ("[0-9A-Fa-f]".toList, rest)
    else if c = 'H' then some ("[^0-9A-Fa-f]".toList, rest)
    else if c ∈ ['x', 'u', 'U'] then
      (readCode? (hexWidth c) rest).map fun (c, rest) => (quoted c, rest)
    else if c ∈ ['p', 'P'] && rest != [] then
      match readPropertyName false rest with
      | .ok (_, after) => some ('\\' :: c :: rest.take (rest.length - after.length), after)
      | .error _ => none
    else (literalOf? true c).map fun c => (quoted c, rest)

/-- Reads a class behind its opening bracket up to the bracket that closes it, in the spelling of
the grammar.  Brackets are counted; `written` is in reverse, and the first number bounds the
steps. -/
def readClassText : Nat → (depth : Nat) → (written s : List Char) → Option (List Char × List Char)
  | 0, _, _, _ => none
  | _ + 1, _, _, [] => none
  | n + 1, depth, written, c :: rest =>
    match c with
    | '\\' => do
      let (text, rest) ← readClassEscape rest
      readClassText n depth (text.reverse ++ written) rest
    | '[' => readClassText n (depth + 1) ('[' :: written) rest
    | ']' =>
      if depth ≤ 1 then some ((']' :: written).reverse, rest)
      else readClassText n (depth - 1) (']' :: written) rest
    | c => readClassText n depth (c :: written) rest

/-- Reads a class behind its opening bracket.  A closing bracket that comes first stands for
itself. -/
def readClass (p : Progress) (s : List Char) : Option (Reading Expression) := do
  let (first, s) := match s with
    | '^' :: ']' :: rest => (['^', ']'], rest)
    | '^' :: rest => (['^'], rest)
    | ']' :: rest => ([']'], rest)
    | s => ([], s)
  let (text, rest) ← readClassText (s.length + 1) 1 first.reverse s
  match ClassStyle.readBracket { ignoreCase := p.flags.ignoreCase } text with
  | .ok (b, []) => b.members.map fun k => (.char k, p, rest)
  | _ => none

/-- Reads an escape outside brackets behind its backslash. -/
def readEscaped (p : Progress) (s : List Char) : Option (Reading Expression) :=
  match s with
  | [] => none
  | c :: rest =>
    let give (e : Expression) : Option (Reading Expression) := some (e, p, rest)
    let edge (b : Boundary) : Option (Reading Expression) :=
      if rest.head? = some '\x7b' then none else give (.boundary b)
    match c with
    | 'k' => readDelimited p rest
    | 'A' => give (.boundary .textStart)
    | 'z' => give (.boundary .textEnd)
    | 'b' => edge .wordEdge
    | 'B' => edge .noWordEdge
    | '<' => give (.boundary .wordStart)
    | '>' => give (.boundary .wordEnd)
    | 'K' => give .restart
    | 'G' => give .origin
    | 'h' => give (.char .hexDigit)
    | 'H' => give (.char (.negate .hexDigit))
    | 'x' | 'u' | 'U' =>
      (readCode? (hexWidth c) rest).map fun (c, rest) =>
        (.char ((CharClass.ofChar c).foldIf p.flags.ignoreCase), p, rest)
    | 'p' | 'P' =>
      match readPropertyName false rest with
      | .ok (name, rest) =>
        (CharClass.ofProperty? (c = 'P') p.flags.ignoreCase name).map fun k => (.char k, p, rest)
      | .error _ => none
    | c =>
      if c.isDigit then readNumbered p s
      else
        match ofClassLetter? c with
        | some k => give (.char k)
        | none => (literalOf? false c).map fun c => (.char (.ofChar c), p, rest)

/-! ## Groups -/

/-- Reads flags behind their question mark up to a colon or a closing bracket, which is given too.
`start` is the length of the pattern at the first flag, and the first number bounds the steps.
Flags on their own must not be empty, and a dash on its own is no flag. -/
def readFlags (start : Nat) :
    Nat → (value : Bool) → Progress → List Char → Option (Char × Progress × List Char)
  | 0, _, _, _ => none
  | n + 1, value, p, s => do
    match ← p.skip? s with
    | [] => none
    | c :: rest =>
      let taken := start - (rest.length + 1)
      let onlyDash := !value && taken = 1
      if c = ':' then if onlyDash then none else some (c, p, rest)
      else if c = ')' then if onlyDash || taken = 0 then none else some (c, p, rest)
      else if c = '-' then if value then readFlags start n false p rest else none
      else
        let flags ← p.flags.set? value c
        readFlags start n value { p with flags } rest

/-- Goes behind a closing bracket. -/
def closing (p : Progress) (s : List Char) : Option (List Char) := do
  match ← p.skip? s with
  | ')' :: rest => some rest
  | _ => none

/-- What a condition asks: a reference asks whether the group has begun. -/
def conditionOf : Expression → Expression
  | .backref n => .known n
  | e => e

/-- A choice between the first alternative and the others; where both are empty, only the condition
is left. -/
def choiceOf (condition body : Expression) : Expression :=
  let (yes, no) := match body with
    | .alt (yes :: others) => (yes, Expression.ofBranches others)
    | yes => (yes, .empty)
  if yes.isEmpty && no.isEmpty then condition else .choice condition yes no

mutual

/-- Reads alternatives.  A reference by number and a name for a group exclude each other where there
is only one alternative. -/
def readAlternatives : Nat → Nat → Progress → List Char → Option (Reading Expression)
  | 0, _, _, _ => none
  | n + 1, depth, p, s => do
    let (first, p, rest) ← readBranch n depth p s
    let (others, p, rest) ← readMoreAlternatives n depth p rest
    if others.isEmpty && p.numbered && p.names != [] then none
    else some (Expression.ofBranches (first :: others), p, rest)

/-- Reads the alternatives behind a bar. -/
def readMoreAlternatives : Nat → Nat → Progress → List Char → Option (Reading (List Expression))
  | 0, _, _, _ => none
  | n + 1, depth, p, s => do
    match ← p.skip? s with
    | '|' :: rest =>
      let (branch, p, rest) ← readBranch n depth p rest
      let (others, p, rest) ← readMoreAlternatives n depth p rest
      some (branch :: others, p, rest)
    | rest => some ([], p, rest)

/-- Reads parts one after the other, up to a bar or a closing bracket. -/
def readBranch : Nat → Nat → Progress → List Char → Option (Reading Expression)
  | 0, _, _, _ => none
  | n + 1, depth, p, s => do
    let (parts, p, rest) ← readParts n depth p s
    some (Expression.ofParts parts, p, rest)

/-- Reads the parts of a branch. -/
def readParts : Nat → Nat → Progress → List Char → Option (Reading (List Expression))
  | 0, _, _, _ => none
  | n + 1, depth, p, s => do
    let front ← p.skip? s
    if front = [] || front.head? = some '|' || front.head? = some ')' then
      some ([], p, front)
    else
      let (part, p, rest) ← readPart n depth p front
      let (parts, p, rest) ← readParts n depth p rest
      some (part :: parts, p, rest)

/-- Reads one part with the repetition behind it.  A plus sign behind a repetition forbids to go
back into it. -/
def readPart : Nat → Nat → Progress → List Char → Option (Reading Expression)
  | 0, _, _, _ => none
  | n + 1, depth, p, s => do
    let (atom, p, rest) ← readAtom n depth p s
    let rest ← p.skip? rest
    match readQuantifier? p rest with
    | none => some (atom, p, rest)
    | some (low, high, rest) =>
      if !atom.isRepeatable then none
      else
        let (greedy, rest) := match ← p.skip? rest with
          | '?' :: rest => (false, rest)
          | rest => (true, rest)
        let part := Expression.loop atom low high (greedy != p.flags.swapped)
        match rest with
        | '+' :: rest => some (.atomic part, p, rest)
        | _ => some (part, p, rest)

/-- Reads one part. -/
def readAtom : Nat → Nat → Progress → List Char → Option (Reading Expression)
  | 0, _, _, _ => none
  | n + 1, depth, p, s =>
    match s with
    | [] => some (.empty, p, [])
    | '.' :: rest =>
      some (.char (if p.flags.dotAll then .set CharSet.all else .negate (.ofChar '\n')), p, rest)
    | '^' :: rest =>
      some (.boundary (if p.flags.multiLine then .lineStart else .textStart), p, rest)
    | '$' :: rest => some (.boundary (if p.flags.multiLine then .lineEnd else .textEnd), p, rest)
    | '\\' :: rest => readEscaped p rest
    | '[' :: rest => readClass p rest
    | '(' :: rest =>
      if depth < maxNesting then do
        let rest ← p.skip? rest
        readGroup n (depth + 1) p rest
      else none
    | c :: rest =>
      if c ∈ ['?', '*', '+'] then none
      else some (.char ((CharClass.ofChar c).foldIf p.flags.ignoreCase), p, rest)

/-- Reads a group behind its opening bracket. -/
def readGroup : Nat → Nat → Progress → List Char → Option (Reading Expression)
  | 0, _, _, _ => none
  | n + 1, depth, p, s =>
    let inside (p : Progress) (rest : List Char) (wrap : Expression → Expression) :
        Option (Reading Expression) := do
      let (body, p, rest) ← readAlternatives n depth p rest
      let rest ← closing p rest
      some (wrap body, p, rest)
    let capture (p : Progress) (rest : List Char) : Option (Reading Expression) :=
      inside { p with groups := p.groups + 1 } rest (.group (p.groups + 1))
    let named (rest : List Char) : Option (Reading Expression) := do
      let (name, rest) ← readName? false '>' rest
      capture { p with names := (name, p.groups + 1) :: p.names } rest
    match s with
    | '?' :: '=' :: rest => inside p rest (.look false false)
    | '?' :: '!' :: rest => inside p rest (.look false true)
    | '?' :: '<' :: '=' :: rest => inside p rest (.look true false)
    | '?' :: '<' :: '!' :: rest => inside p rest (.look true true)
    | '?' :: '<' :: rest => named rest
    | '?' :: 'P' :: '<' :: rest => named rest
    | '?' :: 'P' :: '=' :: rest => readNamed p false ')' rest
    | '?' :: '>' :: rest => inside p rest .atomic
    | '?' :: '(' :: rest => readChoice n depth p rest
    | '?' :: rest => do
      match ← readFlags rest.length (rest.length + 1) true p rest with
      | (':', q, after) =>
        let (body, q, rest) ← readAlternatives n depth q after
        match rest with
        | ')' :: rest => some (body, { q with flags := p.flags }, rest)
        | _ => none
      | (_, q, after) => some (.empty, q, after)
    | rest => capture p rest

/-- Reads a condition behind its opening bracket and what depends on it.  If nothing does, only a
reference can be the condition. -/
def readChoice : Nat → Nat → Progress → List Char → Option (Reading Expression)
  | 0, _, _, _ => none
  | n + 1, depth, p, s => do
    let (condition, p, rest) ← match s with
      | [] => none
      | c :: _ =>
        if c.isDigit then readNumbered p s
        else if c = '<' || c = '\'' then readDelimited p s
        else readAlternatives n depth p s
    let start ← closing p rest
    let (body, p, rest) ← readAlternatives n depth p start
    let after ← closing p rest
    let asked := conditionOf condition
    if rest.length = start.length then
      match condition with
      | .backref _ => some (asked, p, after)
      | _ => none
    else some (choiceOf asked body, p, after)

end

/-- Reads a whole pattern: the expression and the groups that are referred to. -/
def readPattern (pattern : List Char) : Option (Expression × List Nat) :=
  let p : Progress := { limit := (String.ofList pattern).utf8ByteSize / 2 }
  match readAlternatives (8 * pattern.length + 8) 0 p pattern with
  | some (e, p, []) => some (e, p.referred)
  | _ => none

end ConfigCheck.Regex
