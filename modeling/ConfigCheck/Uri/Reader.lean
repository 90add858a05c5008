import ConfigCheck.Uri.Address
import ConfigCheck.Uri.Basic

/-!
# Reading identifiers

An identifier is read from left to right.  The first fault is reported with the index of the byte
at which it is; before that byte there are only ASCII characters.
-/

namespace ConfigCheck.Uri

/-- What is wrong with the text of an identifier. -/
inductive Fault where
  /-- A percent sign without two hexadecimal digits behind it. -/
  | octet (index : Nat)
  /-- A character that cannot stand here, or an end that comes too early. -/
  | character (index : Nat)
  /-- An address in brackets that is none. -/
  | address (index : Nat)
deriving DecidableEq, Repr, Inhabited

/-- The fault in words. -/
def Fault.message : Fault → String
  | octet i => s!"invalid percent-encoded octet at index {i}"
  | character i => s!"unexpected character at index {i}"
  | address i => s!"invalid IPv6 address at index {i}"

/-! ## Components -/

/-- A part that has been read, and the rest of the text. -/
structure Part where
  /-- The characters of the part. -/
  chars : List Char
  /-- The index of the rest. -/
  index : Nat
  /-- The rest. -/
  rest : List Char

/-- Reads characters of a kind and percent-encoded octets. -/
def readPart (allowed : Char → Bool) (index : Nat) : List Char → Except Fault Part
  | [] => .ok ⟨[], index, []⟩
  | '%' :: s =>
    match s with
    | a :: b :: rest =>
      if isHex a && isHex b then
        match readPart allowed (index + 3) rest with
        | .ok p => .ok { p with chars := '%' :: a :: b :: p.chars }
        | .error e => .error e
      else .error (.octet index)
    | _ => .error (.octet index)
  | c :: rest =>
    if allowed c then
      match readPart allowed (index + 1) rest with
      | .ok p => .ok { p with chars := c :: p.chars }
      | .error e => .error e
    else .ok ⟨[], index, c :: rest⟩

/-- Reads query and fragment behind a path. -/
def readTail (u : Uri) (index : Nat) (s : List Char) : Except Fault Uri := do
  let (u, index, s) ←
    match s with
    | '?' :: rest => do
      let q ← readPart isQueryChar (index + 1) rest
      pure ({ u with query := some (String.ofList q.chars) }, q.index, q.rest)
    | _ => pure (u, index, s)
  match s with
  | [] => pure u
  | '#' :: rest => do
    let f ← readPart isQueryChar (index + 1) rest
    if f.rest = [] then pure { u with fragment := some (String.ofList f.chars) }
    else throw (.character f.index)
  | _ => throw (.character index)

/-- Reads a path that follows a scheme. -/
def readPath (u : Uri) (index : Nat) (s : List Char) : Except Fault Uri := do
  let p ← readPart isPathChar index s
  readTail { u with path := String.ofList p.chars } p.index p.rest

/-- Reads a path that follows an authority: it is empty or begins with a slash. -/
def readPathAfterAuthority (u : Uri) (index : Nat) (s : List Char) : Except Fault Uri := do
  let p ← readPart isPathChar index s
  match p.chars with
  | c :: _ => if c = '/' then pure () else throw (.character index)
  | [] => pure ()
  readTail { u with path := String.ofList p.chars } p.index p.rest

/-- The index of the first character of a port that is no digit. -/
def portFault (index : Nat) : List Char → Option Nat
  | [] => none
  | c :: rest => if c.isDigit then portFault (index + 1) rest else some index

/-- Reads an address of a later version: a letter, a number and a full stop come before it. -/
def readLaterAddress (index : Nat) (s : List Char) : Except Fault (List Char) :=
  match s with
  | [] => .error (.character index)
  | c :: rest =>
    if c = 'v' || c = 'V' then
      let digits := rest.takeWhile isHex
      let index := index + 1 + digits.length
      match digits, rest.drop digits.length with
      | _ :: _, '.' :: rest =>
        let address := rest.takeWhile isUserChar
        if address = [] then .error (.character (index + 1))
        else .ok (rest.drop address.length)
      | _, _ => .error (.character index)
    else .error (.character index)

/-- Reads an address behind a bracket.  A text that does not begin like one of version 6 has to be
of a later version. -/
def readAnyAddress (index : Nat) (s : List Char) : Except Fault (List Char) :=
  match readAddress s with
  | (some _, rest) => .ok rest
  | (none, rest) =>
    if rest.length = s.length then readLaterAddress index s else .error (.address index)

/-- Reads a host in brackets, behind the first of them. -/
def readBracketed (index : Nat) (s : List Char) : Except Fault Part :=
  match readAnyAddress (index + 1) s with
  | .error e => .error e
  | .ok rest =>
    let inside := s.take (s.length - rest.length)
    let last := index + 1 + inside.length
    match rest with
    | ']' :: rest => .ok ⟨'[' :: inside ++ [']'], last + 1, rest⟩
    | _ => .error (.character last)

/-- Reads a port, if there is one. -/
def readPort (p : Part) : Except Fault Part :=
  match p.rest with
  | ':' :: rest =>
    let digits := rest.takeWhile Char.isDigit
    .ok ⟨p.chars ++ ':' :: digits, p.index + 1 + digits.length, rest.drop digits.length⟩
  | _ => .ok p

/-- Reads the host and the port behind the at sign. -/
def readHost (index : Nat) (s : List Char) : Except Fault Part :=
  match s with
  | '[' :: rest => (readBracketed index rest).bind readPort
  | _ => (readPart isNameChar index s).bind readPort

/-- Reads an authority and what follows it. -/
def readAuthority (u : Uri) (index : Nat) (s : List Char) : Except Fault Uri := do
  let front ← readPart isUserChar index s
  match front.rest with
  | '@' :: rest => do
    let host ← readHost (front.index + 1) rest
    let whole := front.chars ++ '@' :: host.chars
    readPathAfterAuthority { u with authority := some (String.ofList whole) } host.index host.rest
  | _ =>
    if front.chars = [] then
      let host ← readHost index s
      readPathAfterAuthority { u with authority := some (String.ofList host.chars) }
        host.index host.rest
    else
      let name := front.chars.takeWhile (· != ':')
      let port := front.chars.drop name.length
      match port.tail with
      | tail =>
        if tail.contains ':' then
          let last := (front.chars.reverse.takeWhile (· != ':')).length
          throw (.character (index + (front.chars.length - last - 1)))
        match portFault (index + name.length + 1) tail with
        | some i => throw (.character i)
        | none =>
          readPathAfterAuthority { u with authority := some (String.ofList front.chars) }
            front.index front.rest

/-- Reads a reference without a scheme; a colon cannot stand in its first segment. -/
def readRelative (s : List Char) : Except Fault Uri := do
  match s with
  | '/' :: '/' :: rest => readAuthority {} 2 rest
  | _ =>
    let first ← readPart isPlainSegmentChar 0 s
    if first.rest.head? = some ':' then throw (.character first.index)
    let p ← readPart isPathChar first.index first.rest
    readTail { path := String.ofList (first.chars ++ p.chars) } p.index p.rest

/-- Reads an identifier or a relative reference. -/
def read (text : String) : Except Fault Uri :=
  let s := text.toList
  let scheme := s.takeWhile isSchemeChar
  match s.drop scheme.length with
  | ':' :: rest =>
    if (scheme.head?.map Char.isAlpha).getD false then
      let u : Uri := { scheme := some (String.ofList scheme) }
      match rest with
      | '/' :: '/' :: rest => readAuthority u (scheme.length + 3) rest
      | _ => readPath u (scheme.length + 1) rest
    else .error (.character 0)
  | _ => readRelative s

end ConfigCheck.Uri
