import ConfigCheck.Uri.Character

/-!
# Addresses as hosts

A host in brackets is an address of version 6: eight groups of hexadecimal digits with colons
between them.  Two colons elide a run of groups that are zero, and the last two groups may be
written as four decimal numbers.  Addresses that are written differently but have the same groups
are the same, and `writeAddress` gives the one form that is normal.
-/

namespace ConfigCheck.Uri

/-- What stands at one place of an address. -/
inductive Group where
  /-- A group of digits, perhaps with a colon before it. -/
  | plain (value : Nat) (colon : Bool)
  /-- Digits that a full stop follows, perhaps with a colon before them. -/
  | dotted (colon : Bool)
  /-- Two colons. -/
  | elision
  /-- A colon without anything that belongs to it. -/
  | strayColon
deriving DecidableEq, Repr, Inhabited

/-- The number that hexadecimal digits write. -/
def hexNumber (digits : List Char) : Nat := digits.foldl (fun n c => n * 16 + hexDigit c) 0

/-- Reads one place of an address.  Of digits at most four are read.  There is nothing to read at a
character that cannot stand in an address, nor where the text ends among digits. -/
def readGroup (s : List Char) : Option Group × List Char :=
  let (colon, t) := match s with
    | ':' :: t => (true, t)
    | _ => (false, s)
  let digits := (t.takeWhile isHex).take 4
  let rest := t.drop digits.length
  if digits = [] then
    if !colon then (none, t)
    else
      match t with
      | ':' :: rest => (some .elision, rest)
      | _ => (some .strayColon, t)
  else if digits.length < 4 && rest.isEmpty then (none, [])
  else if digits.length < 4 && rest.head? = some '.' then (some (.dotted colon), t)
  else (some (.plain (hexNumber digits) colon), rest)

/-- Reads a decimal number below 256 without leading zeros. -/
def readOctet (s : List Char) : Option Nat × List Char :=
  match s with
  | '0' :: rest => (some 0, rest)
  | _ =>
    let digits := (s.takeWhile Char.isDigit).take 3
    let n := digits.foldl (fun n c => n * 10 + (c.toNat - '0'.toNat)) 0
    (if digits != [] && n ≤ 255 then some n else none, s.drop digits.length)

/-- Reads further decimal numbers, each behind a full stop. -/
def readOctets : Nat → List Nat → List Char → Option (List Nat) × List Char
  | 0, octets, s => (some octets, s)
  | n + 1, octets, s =>
    match s with
    | '.' :: rest =>
      match readOctet rest with
      | (some octet, rest) => readOctets n (octets ++ [octet]) rest
      | (none, rest) => (none, rest)
    | _ => (none, s)

/-- Reads four decimal numbers as two groups. -/
def readDotted (s : List Char) : Option (List Nat) × List Char :=
  match readOctet s with
  | (none, rest) => (none, rest)
  | (some first, rest) =>
    match readOctets 3 [first] rest with
    | (some [a, b, c, d], rest) => (some [a * 256 + b, c * 256 + d], rest)
    | (_, rest) => (none, rest)

/-- Groups that have been read, and behind how many of them two colons stand. -/
structure Groups where
  /-- The values of the groups. -/
  values : List Nat := []
  /-- The number of groups before the two colons. -/
  elided : Option Nat := none
deriving Repr, Inhabited

/-- Whether the next group comes first or right behind two colons, so that it has no colon of its
own. -/
def Groups.atStart (g : Groups) : Bool := g.values.isEmpty || g.elided == some g.values.length

/-- The eight groups: the elided ones are zero, and at least one group is elided. -/
def Groups.complete? (g : Groups) : Option (List Nat) :=
  match g.elided with
  | none => if g.values.length = 8 then some g.values else none
  | some front =>
    if g.values.length < 8 then
      some (g.values.take front ++ List.replicate (8 - g.values.length) 0 ++ g.values.drop front)
    else none

/-- Reads groups up to the eighth one; the first number bounds the steps. -/
def readGroups : Nat → Groups → List Char → Option Groups × List Char
  | 0, _, s => (none, s)
  | n + 1, g, s =>
    if 8 ≤ g.values.length then (some g, s)
    else
      match readGroup s with
      | (none, rest) => (some g, rest)
      | (some .strayColon, rest) => (none, rest)
      | (some .elision, rest) =>
        if g.elided.isSome then (none, rest)
        else readGroups n { g with elided := some g.values.length } rest
      | (some (.plain value colon), rest) =>
        if colon == g.atStart then (none, rest)
        else readGroups n { g with values := g.values ++ [value] } rest
      | (some (.dotted colon), rest) =>
        if 6 < g.values.length || colon == (g.elided == some g.values.length) then (none, rest)
        else
          match readDotted rest with
          | (some values, rest) => (some { g with values := g.values ++ values }, rest)
          | (none, rest) => (none, rest)

/-- Reads an address: its eight groups, if it is one, and what has not been read. -/
def readAddress (s : List Char) : Option (List Nat) × List Char :=
  match readGroups (s.length + 1) {} s with
  | (some g, rest) => (g.complete?, rest)
  | (none, rest) => (none, rest)

/-! ## The normal form -/

/-- Groups with colons between them, without leading zeros. -/
def writeGroups (groups : List Nat) : String :=
  ":".intercalate (groups.map fun n => String.ofList (Nat.toDigits 16 n))

/-- The number of groups at the front that are zero. -/
def zerosAtFront (groups : List Nat) : Nat := (groups.takeWhile (· = 0)).length

/-- Where the first longest run of groups that are zero begins, and its length. -/
def longestZeros (groups : List Nat) : Nat × Nat :=
  (List.range groups.length).foldl (fun best i =>
    let n := zerosAtFront (groups.drop i)
    if best.2 < n then (i, n) else best) (0, 0)

/-- The normal form: the longest run of at least two zeros is elided.  An address that stands for
one of version 4 ends in four decimal numbers. -/
def writeAddress (groups : List Nat) : String :=
  match groups with
  | [0, 0, 0, 0, 0, 0xffff, high, low] =>
    "::ffff:" ++ ".".intercalate
      ([high / 256, high % 256, low / 256, low % 256].map fun n =>
        String.ofList (Nat.toDigits 10 n))
  | _ =>
    let (start, n) := longestZeros groups
    if 1 < n then writeGroups (groups.take start) ++ "::" ++ writeGroups (groups.drop (start + n))
    else writeGroups groups

end ConfigCheck.Uri
