import ConfigCheck.Yaml.Token.Flow

/-!
# Block scalars

A block scalar starts with a header: `|` or `>`, perhaps an indentation and a sign that says what
happens to the line ends at its end.  Its lines share an indentation, which the first line that is
not empty sets unless the header does.  A literal block keeps its line ends; a folded one joins
neighbouring lines that do not start with a blank by a space.
-/

namespace ConfigCheck.Yaml

/-- What happens to the line ends behind the last line. -/
inductive Chomping where
  /-- All are dropped. -/
  | strip
  /-- The first one is kept. -/
  | clip
  /-- All are kept. -/
  | keep
deriving DecidableEq, Repr

/-- The sign of a block header. -/
def chompingSign? : Option Char → Option Chomping
  | some '+' => some .keep
  | some '-' => some .strip
  | _ => none

/-- The indentation digit of a block header, zero if there is none. -/
def scanIndentation (start : Mark) (c : Cursor) : Except SyntaxError (Nat × Cursor) :=
  match c.peek? with
  | some d =>
    if d = '0' then .error (.during .blockScalar start .zeroIndentation c.mark)
    else if isDigit d then .ok (d.toNat - '0'.toNat, c.skip 1)
    else .ok (0, c)
  | none => .ok (0, c)

/-- The sign and the digit of a block header, in either order. -/
def scanBlockHeader (start : Mark) (c : Cursor) :
    Except SyntaxError (Chomping × Nat × Cursor) := do
  match chompingSign? c.peek? with
  | some chomping =>
    let (increment, c) ← scanIndentation start (c.skip 1)
    return (chomping, increment, c)
  | none =>
    let (increment, after) ← scanIndentation start c
    if increment = 0 then return (.clip, 0, c)
    match chompingSign? after.peek? with
    | some chomping => return (chomping, increment, after.skip 1)
    | none => return (.clip, increment, after)

/-- The empty lines before a line of content. -/
structure BlockGap where
  /-- The line ends. -/
  breaks : List Char
  /-- The largest indentation of an empty line. -/
  widest : Nat
  /-- The place behind the last line end. -/
  stop : Mark
  /-- The rest of the text, behind the indentation. -/
  cursor : Cursor
deriving Repr

/-- Reads indentation and empty lines.  With `indent = 0` the indentation is not known yet and all
spaces count as indentation. -/
def takeBlockGap (start : Mark) (indent : Nat) :
    (fuel : Nat) → BlockGap → Except SyntaxError BlockGap
  | 0, g => .ok g
  | fuel + 1, g =>
    let spaces := (g.cursor.rest.takeWhile (· = ' ')).length
    let c := g.cursor.skip (if indent = 0 then spaces else min spaces (indent - g.cursor.column))
    let widest := max g.widest c.column
    if (indent = 0 || c.column < indent) && c.at_ '\t' then
      .error (.during .blockScalar start .tabInIndentation c.mark)
    else
      match c.takeBreak with
      | ([], _) => .ok ⟨g.breaks, widest, g.stop, c⟩
      | (breaks, next) =>
        takeBlockGap start indent fuel ⟨g.breaks ++ breaks, widest, next.mark, next⟩

/-- Reads the empty lines at the cursor. -/
def blockGapAt (start : Mark) (indent : Nat) (c : Cursor) : Except SyntaxError BlockGap :=
  takeBlockGap start indent (c.rest.length + 1) ⟨[], 0, c.mark, c⟩

/-- A block scalar while its lines are read. -/
structure BlockText where
  /-- The content of the lines before. -/
  text : List Char
  /-- The line end of the last line. -/
  lineEnd : List Char
  /-- Whether the last line starts with a blank. -/
  indented : Bool
  /-- The empty lines behind the last line. -/
  gap : BlockGap
deriving Repr

/-- What joins the last line to one that starts with `next`. -/
def BlockText.joined (b : BlockText) (literal : Bool) (next : Option Char) : List Char :=
  let nextIndented := next.any isBlank
  if !literal && b.lineEnd.head? = some '\n' && !b.indented && !nextIndented then
    b.text ++ (if b.gap.breaks = [] then [' '] else []) ++ b.gap.breaks
  else b.text ++ b.lineEnd ++ b.gap.breaks

/-- Reads lines as long as they are indented by `indent`. -/
def scanBlockLines (literal : Bool) (start : Mark) (indent : Nat) :
    (fuel : Nat) → BlockText → Except SyntaxError BlockText
  | 0, b => .ok b
  | fuel + 1, b =>
    let c := b.gap.cursor
    if c.column = indent && c.rest ≠ [] then
      let (line, after) := c.span (!isBreak ·)
      let (lineEnd, next) := after.takeBreak
      match blockGapAt start indent next with
      | .error e => .error e
      | .ok gap =>
        scanBlockLines literal start indent fuel
          ⟨b.joined literal c.peek? ++ line, lineEnd, c.peek?.any isBlank, gap⟩
    else .ok b

/-- Reads a block scalar from its indicator on; `parent` is the indentation around it. -/
def scanBlock (literal : Bool) (parent : Int) (c : Cursor) :
    Except SyntaxError ScannedScalar := do
  let start := c.mark
  let (chomping, increment, c) ← scanBlockHeader start (c.skip 1)
  let c := (c.skipWhile isBlank).skipComment
  if !atBreak c.rest then throw (.during .blockScalar start .missingBlockLineEnd c.mark)
  let c := c.skipBreak
  let given := if increment = 0 then 0 else (max parent 0).toNat + increment
  let gap ← blockGapAt start given c
  let indent := if given = 0 then max (max gap.widest (parent + 1).toNat) 1 else given
  let b ← scanBlockLines literal start indent (c.rest.length + 1) ⟨[], [], false, gap⟩
  let tail := match chomping with
    | .strip => []
    | .clip => b.lineEnd
    | .keep => b.lineEnd ++ b.gap.breaks
  return ⟨b.text ++ tail, b.gap.stop, false, b.gap.cursor⟩

end ConfigCheck.Yaml
