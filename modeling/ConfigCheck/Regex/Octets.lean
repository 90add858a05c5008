import ConfigCheck.Regex.CharClass

/-!
# Classes as sequences of bytes

The members of a class as sorted ranges of code points (`CharClass.ranges`), the ranges as sequences
of ranges of UTF-8 bytes (`Octets.ofRanges`), and the states of the
smallest machine that reads these sequences and shares their ends (`Octets.sharedEnds`), or their
beginnings (`Octets.beginnings`).
-/

namespace ConfigCheck.Regex

/-! ## Ranges of code points -/

/-- Closed ranges of code points. -/
abbrev CodeRanges := List (Nat × Nat)

namespace CodeRanges

/-- The greatest code point. -/
def last : Nat := 0x10ffff

/-- Joins sorted ranges that touch, from an open range on. -/
def joinFrom (low high : Nat) : CodeRanges → CodeRanges
  | [] => [(low, high)]
  | (a, b) :: rest =>
    if a ≤ high + 1 then joinFrom low (max high b) rest else (low, high) :: joinFrom a b rest

/-- The ranges sorted, and joined where they touch. -/
def normal (rs : CodeRanges) : CodeRanges :=
  match rs.mergeSort fun r t => r.1 ≤ t.1 with
  | [] => []
  | (a, b) :: rest => joinFrom a b rest

/-- The code points from `start` on that are in none of the sorted ranges. -/
def gapsFrom (start : Nat) : CodeRanges → CodeRanges
  | [] => if start ≤ last then [(start, last)] else []
  | (a, b) :: rest => if start < a then (start, a - 1) :: gapsFrom (b + 1) rest
    else gapsFrom (b + 1) rest

/-- The code points outside sorted ranges. -/
def complement (rs : CodeRanges) : CodeRanges := gapsFrom 0 rs

/-- The code points of both sorted ranges. -/
def inter (rs ts : CodeRanges) : CodeRanges := complement (normal (complement rs ++ complement ts))

/-- The number of code points. -/
def size (rs : CodeRanges) : Nat := rs.foldl (fun n (a, b) => n + (b + 1 - a)) 0

/-- Whether a code point lies in one of the ranges. -/
def has (rs : CodeRanges) (n : Nat) : Bool := rs.any fun (a, b) => a ≤ n && n ≤ b

/-- The code points of a few ranges. -/
def codes (rs : CodeRanges) : List Nat := rs.flatMap fun (a, b) => List.range' a (b + 1 - a)

/-- The other spellings of a code point. -/
def variants (n : Nat) : List Nat := (Text.caseVariants (Char.ofNat n)).map Char.toNat

/-- The ranges together with what differs from their members in case alone.  Small sets are gone
through; for large ones it is less to go through the characters with case. -/
def folded (rs : CodeRanges) : CodeRanges :=
  let more :=
    if rs.size ≤ 512 then rs.codes.flatMap variants
    else Text.casedCodes.filter fun n => (variants n).any rs.has
  normal (rs ++ more.map fun n => (n, n))

/-- The code points of characters: all but the surrogates. -/
def scalars : CodeRanges := [(0, 0xd7ff), (0xe000, last)]

end CodeRanges

/-- The code points of a run. -/
def ofRun (r : Run) : CodeRanges :=
  if r.step ≤ 1 then [(r.low, r.high)]
  else (List.range ((r.high - r.low) / r.step + 1)).map fun i =>
    (r.low + i * r.step, r.low + i * r.step)

/-- The code points of a class as sorted ranges that do not touch. -/
def CharClass.codeRanges : CharClass → CodeRanges
  | set chars => CodeRanges.normal (chars.runs.flatMap ofRun)
  | negate k => k.codeRanges.complement
  | union k l => CodeRanges.normal (k.codeRanges ++ l.codeRanges)
  | inter k l => k.codeRanges.inter l.codeRanges
  | diff k l => k.codeRanges.inter l.codeRanges.complement
  | folded k => k.codeRanges.folded

/-- The members of a class as sorted ranges. -/
def CharClass.ranges (k : CharClass) : CodeRanges := k.codeRanges.inter CodeRanges.scalars

/-! ## Sequences of bytes -/

/-- One range of values for each byte of a character. -/
abbrev Octets := List (Nat × Nat)

namespace Octets

/-- The sequences for the code points between two others of the same length, of which `tail` bytes
follow the first one, which is counted from `lead` on. -/
def between (lead : Nat) : (tail low high : Nat) → List Octets
  | 0, low, high => [[(lead + low, lead + high)]]
  | tail + 1, low, high =>
    let unit := 64 ^ (tail + 1)
    let (a, b) := (low / unit, high / unit)
    let under (digit low high : Nat) : List Octets :=
      (between 0x80 tail low high).map ((lead + digit, lead + digit) :: ·)
    if a = b then under a (low % unit) (high % unit)
    else
      let front := if low % unit = 0 then [] else under a (low % unit) (unit - 1)
      let back := if high % unit = unit - 1 then [] else under b 0 (high % unit)
      let (a, b) := (if front = [] then a else a + 1, if back = [] then b + 1 else b)
      let middle := if a < b then
          (between 0x80 tail 0 (unit - 1)).map ((lead + a, lead + b - 1) :: ·)
        else []
      front ++ middle ++ back

/-- Where characters with a number of further bytes lie, and what their first byte counts from. -/
def lengths : List (Nat × Nat × Nat × Nat) :=
  [(0, 0, 0x7f, 0), (1, 0x80, 0x7ff, 0xc0), (2, 0x800, 0xffff, 0xe0), (3, 0x10000, 0x10ffff, 0xf0)]

/-- The sequences for sorted ranges of characters. -/
def ofRanges (rs : CodeRanges) : List Octets :=
  rs.flatMap fun (a, b) =>
    lengths.flatMap fun (tail, low, high, lead) =>
      if max a low ≤ min b high then between lead tail (max a low) (min b high) else []

/-- Sequences by their first range, as long as neighbours have the same. -/
def byHead : List Octets → List ((Nat × Nat) × List Octets)
  | [] => []
  | [] :: rest => byHead rest
  | (head :: tail) :: rest =>
    match byHead rest with
    | (next, tails) :: others =>
      if next = head then (head, tail :: tails) :: others
      else (head, [tail]) :: (next, tails) :: others
    | [] => [(head, [tail])]

/-- A state of a machine that reads sequences: ranges and the states to which they lead. -/
abbrev Junction := List ((Nat × Nat) × Nat)

/-- The state that reads sequences of at most `n` bytes, among states that are there already; state
zero is the end of all sequences. -/
def join : (n : Nat) → List Octets → StateM (List Junction) Nat
  | 0, _ => pure 0
  | n + 1, sequences => do
    let groups := byHead sequences
    if groups = [] then pure 0
    else
      let targets ← groups.mapM fun (_, tails) => join n tails
      let here := (groups.map (·.1)).zip targets
      let states ← get
      match states.reverse.findIdx? (· == here) with
      | some i => pure (i + 1)
      | none => do
        set (here :: states)
        pure (states.length + 1)

/-- The states of the smallest machine that reads the sequences and shares their ends. -/
def sharedEnds (sequences : List Octets) : List Junction := ((join 4 sequences).run []).2

/-- How many ranges two sequences have in common at their beginnings. -/
def common : Octets → Octets → Nat
  | r :: s, t :: u => if r = t then common s u + 1 else 0
  | _, _ => 0

/-- The number of different beginnings of sorted sequences behind the sequence before them. -/
def beginnings (before : Octets) : List Octets → Nat
  | [] => 0
  | s :: rest => s.length - common before s + beginnings s rest

end Octets

end ConfigCheck.Regex
