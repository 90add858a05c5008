/-!
# Sets of characters

A set of characters is a list of runs of code points at equal distances.  Membership looks at every
run, so runs may overlap and need not be sorted.  Large sets are written as text
(`CharSet.ofLines`): each run as its first and last code point in hexadecimal digits with a dash
between them, a distance other than one behind a slash, and blanks between runs.
-/

namespace ConfigCheck

/-- Code points at equal distances. -/
structure Run where
  /-- The first code point. -/
  low : Nat
  /-- No code point is greater. -/
  high : Nat
  /-- The distance between neighbours. -/
  step : Nat := 1
deriving DecidableEq, Repr, Inhabited

namespace Run

/-- Whether a code point belongs to the run. -/
def has (r : Run) (n : Nat) : Bool := r.low ≤ n && n ≤ r.high && (n - r.low) % r.step == 0

/-- The number that hexadecimal digits write; capitals are not used. -/
def code (digits : List Char) : Nat :=
  digits.foldl (fun n c =>
    n * 16 + (if c.isDigit then c.toNat - '0'.toNat else c.toNat - 'a'.toNat + 10)) 0

/-- The run that a part of a table writes. -/
def ofPart (part : List Char) : Run :=
  let low := part.takeWhile (· != '-')
  let rest := part.drop (low.length + 1)
  let high := rest.takeWhile (· != '/')
  let step := rest.drop (high.length + 1)
  { low := code low
    high := if rest = [] then code low else code high
    step := if step = [] then 1 else code step }

end Run

/-- A set of characters. -/
structure CharSet where
  /-- The runs of code points. -/
  runs : List Run
deriving DecidableEq, Repr, Inhabited

namespace CharSet

/-- Whether the character lies in one of the runs. -/
def contains (s : CharSet) (c : Char) : Bool := s.runs.any (·.has c.toNat)

/-- The set without members. -/
def empty : CharSet := ⟨[]⟩

/-- The characters of closed ranges of code points. -/
def ofRanges (ranges : List (Nat × Nat)) : CharSet :=
  ⟨ranges.map fun (low, high) => { low, high }⟩

/-- Every code point. -/
def all : CharSet := .ofRanges [(0, 0x10ffff)]

/-- The set of one character. -/
def singleton (c : Char) : CharSet := .ofRanges [(c.toNat, c.toNat)]

/-- The characters from `a` to `b`. -/
def range (a b : Char) : CharSet := .ofRanges [(a.toNat, b.toNat)]

/-- The characters of a list. -/
def ofList (cs : List Char) : CharSet := .ofRanges (cs.map fun c => (c.toNat, c.toNat))

/-- The set that the lines of a table write. -/
def ofLines (lines : List String) : CharSet :=
  ⟨lines.flatMap fun line => (line.toList.splitOn ' ').map Run.ofPart⟩

/-- The characters of any of the sets. -/
def unionAll (sets : List CharSet) : CharSet := ⟨sets.flatMap runs⟩

@[simp] theorem contains_empty (c : Char) : empty.contains c = false := rfl

theorem contains_unionAll (sets : List CharSet) (c : Char) :
    (unionAll sets).contains c = sets.any (·.contains c) := by
  simp [contains, unionAll, List.any_flatMap]

end CharSet

end ConfigCheck
