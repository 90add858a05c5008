import ConfigCheck.Json.Value

/-!
# Reading JSON text

A strict reader: one value, nothing behind it but white space, at most 127 values nested inside
each other.  Every refusal names its cause and the place, counted in lines and in bytes of the
line.

The functions work on the rest of the text.  A refusal holds how many bytes were left, from which
`Json.read` computes the place; the next byte is counted as seen when the reader looked at it
without taking it.

A number without fraction and exponent is an integer if it fits into 64 bits.  Any other number
is computed from its first digits, as many as fit into 64 bits, by one multiplication or division
by a power of ten, each rounded; so its last bit may differ from the nearest number.
-/

namespace ConfigCheck.Json

/-- Why a text is not JSON. -/
inductive ReadCause where
  /-- The text ended where a value should stand. -/
  | endInValue
  /-- The text ended inside an array. -/
  | endInArray
  /-- The text ended inside an object. -/
  | endInObject
  /-- The text ended inside a string. -/
  | endInString
  /-- A name is not followed by a colon. -/
  | expectedColon
  /-- An item is followed by neither a comma nor a bracket. -/
  | expectedItemEnd
  /-- A member is followed by neither a comma nor a brace. -/
  | expectedMemberEnd
  /-- A word that starts like `null`, `true` or `false` goes on differently. -/
  | expectedWord
  /-- No value starts with this character. -/
  | expectedValue
  /-- A backslash with a character that has no meaning after it. -/
  | invalidEscape
  /-- A number in a form that JSON does not have. -/
  | invalidNumber
  /-- A number beyond the largest floating-point number. -/
  | numberOutOfRange
  /-- A raw control character inside a string. -/
  | controlInString
  /-- A member that does not start with a string. -/
  | nameNotString
  /-- Half of a surrogate pair without its other half. -/
  | loneSurrogate
  /-- The first half of a surrogate pair is not followed by an escape. -/
  | surrogateEnd
  /-- A comma before the closing bracket or brace. -/
  | trailingComma
  /-- Something behind the value. -/
  | trailingText
  /-- More than 127 values nested inside each other. -/
  | tooDeep
deriving DecidableEq, Repr, Inhabited

/-- The text of a cause. -/
def ReadCause.message : ReadCause → String
  | .endInValue => "EOF while parsing a value"
  | .endInArray => "EOF while parsing a list"
  | .endInObject => "EOF while parsing an object"
  | .endInString => "EOF while parsing a string"
  | .expectedColon => "expected `:`"
  | .expectedItemEnd => "expected `,` or `]`"
  | .expectedMemberEnd => "expected `,` or `\x7d`"
  | .expectedWord => "expected ident"
  | .expectedValue => "expected value"
  | .invalidEscape => "invalid escape"
  | .invalidNumber => "invalid number"
  | .numberOutOfRange => "number out of range"
  | .controlInString => "control character (\\u0000-\\u001F) found while parsing a string"
  | .nameNotString => "key must be a string"
  | .loneSurrogate => "lone leading surrogate in hex escape"
  | .surrogateEnd => "unexpected end of hex escape"
  | .trailingComma => "trailing comma"
  | .trailingText => "trailing characters"
  | .tooDeep => "recursion limit exceeded"

/-- A cause with the number of bytes that were left at its place. -/
structure Refusal where
  /-- What is wrong. -/
  cause : ReadCause
  /-- The bytes behind the place. -/
  left : Nat
deriving DecidableEq, Repr

/-- What was read, and the rest of the text. -/
abbrev Taken (α : Type) := α × List Char

/-- The size of a text in UTF-8. -/
def byteCount (cs : List Char) : Nat := cs.foldl (fun n c => n + c.utf8Size) 0

/-- Refuses at the end of what was taken. -/
def refuse {α : Type} (cause : ReadCause) (rest : List Char) : Except Refusal α :=
  .error ⟨cause, byteCount rest⟩

/-- Refuses at the next byte, which was looked at but not taken. -/
def refuseNext {α : Type} (cause : ReadCause) (rest : List Char) : Except Refusal α :=
  .error ⟨cause, byteCount rest - 1⟩

/-- The four characters that may stand between tokens. -/
def isSpace (c : Char) : Bool := c = ' ' || c = '\n' || c = '\t' || c = '\r'

/-- The rest of the text behind white space. -/
def skipSpace (cs : List Char) : List Char := cs.dropWhile isSpace

/-- Whether the character is one of the ten digits. -/
def isDigit (c : Char) : Bool := '0' ≤ c && c ≤ '9'

/-- The value of a decimal digit. -/
def digitValue (c : Char) : Nat := c.toNat - '0'.toNat

/-! ## Numbers -/

/-- Appends digits to a significand as long as it fits into 64 bits; gives the significand and
the number of digits that were left over. -/
def absorb (significand : Nat) : List Char → Nat × Nat
  | [] => (significand, 0)
  | c :: rest =>
    let next := significand * 10 + digitValue c
    if next < 2 ^ 64 then absorb next rest else (significand, rest.length + 1)

/-- A power of ten that is a finite number. -/
def powerOfTen (n : Nat) : Binary64 := .ofDecimal false 1 n

/-- `x * 10 ^ exponent` by one multiplication or division; below `10 ^ (-308)` by several
divisions.  Nothing if the product is too large. -/
def scaleByPower (x : Binary64) (exponent : Int) : Option Binary64 :=
  if 308 < exponent then if x.isZero then some x else none
  else if 0 ≤ exponent then
    let y := x.mul (powerOfTen exponent.toNat)
    if y.isInfinite then none else some y
  else if exponent < -308 then
    if x.isZero then some x else scaleByPower (x.div (powerOfTen 308)) (exponent + 308)
  else some (x.div (powerOfTen (-exponent).toNat))
termination_by (-exponent).toNat
decreasing_by omega

/-- The floating-point number of a significand and an exponent. -/
def floatOfParts (negative : Bool) (significand : Nat) (exponent : Int) (rest : List Char) :
    Except Refusal (Taken Number) :=
  match scaleByPower (.ofNat significand) exponent with
  | none => refuse .numberOutOfRange rest
  | some x => .ok (.float (if negative then x.neg else x), rest)

/-- Reads the digits of an exponent up to where they no longer fit into 32 bits, which ends the
number at once if it is not zero. -/
def exponentDigits (value : Nat) : List Char → Nat × Bool × List Char
  | [] => (value, false, [])
  | c :: rest =>
    if isDigit c then
      let next := value * 10 + digitValue c
      if next < 2 ^ 31 then exponentDigits next rest else (value, true, rest)
    else (value, false, c :: rest)

/-- What stands behind the `e` of a number. -/
def readExponent (negative : Bool) (significand : Nat) (start : Int) (cs : List Char) :
    Except Refusal (Taken Number) :=
  let (down, cs) := match cs with
    | '+' :: rest => (false, rest)
    | '-' :: rest => (true, rest)
    | _ => (false, cs)
  match cs with
  | [] => refuse .endInValue []
  | c :: rest =>
    if isDigit c then
      match exponentDigits (digitValue c) rest with
      | (value, false, rest) =>
        floatOfParts negative significand (if down then start - value else start + value) rest
      | (_, true, rest) =>
        if significand ≠ 0 && !down then refuse .numberOutOfRange rest
        else .ok (.float (.zero negative), rest.dropWhile isDigit)
    else
      .error ⟨.invalidNumber, byteCount cs - 1⟩

/-- What stands behind the point of a number. -/
def readFraction (negative : Bool) (significand : Nat) (start : Int) (cs : List Char) :
    Except Refusal (Taken Number) :=
  let digits := cs.takeWhile isDigit
  let rest := cs.dropWhile isDigit
  if digits = [] then
    if rest = [] then refuseNext .endInValue rest else refuseNext .invalidNumber rest
  else
    let (significand, left) := absorb significand digits
    let exponent := start - (digits.length - left : Nat)
    match rest with
    | 'e' :: rest | 'E' :: rest => readExponent negative significand exponent rest
    | rest => floatOfParts negative significand exponent rest

/-- The number of a text that consists of digits alone: an integer if it fits into 64 bits. -/
def wholeNumber (negative : Bool) (significand left : Nat) (rest : List Char) :
    Except Refusal (Taken Number) :=
  if left ≠ 0 then floatOfParts negative significand left rest
  else if !negative then .ok (.int significand, rest)
  else if 1 ≤ significand && significand ≤ 2 ^ 63 then .ok (.int (-significand), rest)
  else .ok (.float (Binary64.ofNat significand).neg, rest)

/-- A number behind its sign. -/
def readNumber (negative : Bool) (cs : List Char) : Except Refusal (Taken Number) :=
  match cs with
  | [] => refuse .endInValue []
  | c :: rest =>
    if !isDigit c then .error ⟨.invalidNumber, byteCount cs - 1⟩
    else
      let digits := cs.takeWhile isDigit
      if c = '0' && digits.length ≠ 1 then refuseNext .invalidNumber rest
      else
        let (significand, left) := absorb 0 digits
        match cs.dropWhile isDigit with
        | '.' :: rest => readFraction negative significand left rest
        | 'e' :: rest | 'E' :: rest => readExponent negative significand left rest
        | rest => wholeNumber negative significand left rest

/-! ## Strings -/

/-- The value of a hexadecimal digit. -/
def hexValue? (c : Char) : Option Nat :=
  if isDigit c then some (digitValue c)
  else if 'a' ≤ c && c ≤ 'f' then some (c.toNat - 'a'.toNat + 10)
  else if 'A' ≤ c && c ≤ 'F' then some (c.toNat - 'A'.toNat + 10)
  else none

/-- Four bytes that are hexadecimal digits. -/
def readHex (cs : List Char) : Except Refusal (Taken Nat) :=
  if byteCount cs < 4 then refuse .endInString []
  else
    match cs with
    | a :: b :: c :: d :: rest =>
      match hexValue? a, hexValue? b, hexValue? c, hexValue? d with
      | some a, some b, some c, some d => .ok (((a * 16 + b) * 16 + c) * 16 + d, rest)
      | _, _, _, _ => .error ⟨.invalidEscape, byteCount cs - 4⟩
    | _ => .error ⟨.invalidEscape, byteCount cs - 4⟩

/-- The second half of a surrogate pair, behind the first half. -/
def readLowSurrogate (high : Nat) (cs : List Char) : Except Refusal (Taken Char) :=
  match cs with
  | [] => refuse .endInString []
  | '\\' :: cs =>
    match cs with
    | [] => refuse .endInString []
    | 'u' :: cs => do
      let (low, rest) ← readHex cs
      if 0xdc00 ≤ low && low ≤ 0xdfff then
        return (Char.ofNat ((high - 0xd800) * 0x400 + (low - 0xdc00) + 0x10000), rest)
      else refuse .loneSurrogate rest
    | _ :: _ => .error ⟨.surrogateEnd, byteCount cs - 1⟩
  | _ :: _ => .error ⟨.surrogateEnd, byteCount cs - 1⟩

/-- The character of an escape, behind its backslash. -/
def readEscape (cs : List Char) : Except Refusal (Taken Char) :=
  match cs with
  | [] => refuse .endInString []
  | '"' :: rest => .ok ('"', rest)
  | '\\' :: rest => .ok ('\\', rest)
  | '/' :: rest => .ok ('/', rest)
  | 'b' :: rest => .ok ('\x08', rest)
  | 'f' :: rest => .ok ('\x0c', rest)
  | 'n' :: rest => .ok ('\n', rest)
  | 'r' :: rest => .ok ('\r', rest)
  | 't' :: rest => .ok ('\t', rest)
  | 'u' :: rest => do
    let (unit, rest) ← readHex rest
    if 0xdc00 ≤ unit && unit ≤ 0xdfff then refuse .loneSurrogate rest
    else if 0xd800 ≤ unit && unit ≤ 0xdbff then readLowSurrogate unit rest
    else return (Char.ofNat unit, rest)
  | _ :: _ => .error ⟨.invalidEscape, byteCount cs - 1⟩

/-- A string behind its opening quote.  `taken` holds its characters so far in reverse; `fuel`
is at least the number of characters left. -/
def readStringFrom : (fuel : Nat) → (taken : List Char) → List Char → Except Refusal (Taken String)
  | 0, _, _ => refuse .endInString []
  | _ + 1, _, [] => refuse .endInString []
  | fuel + 1, taken, c :: rest =>
    if c = '"' then .ok (String.ofList taken.reverse, rest)
    else if c = '\\' then do
      let (c, rest) ← readEscape rest
      readStringFrom fuel (c :: taken) rest
    else if c.toNat < 0x20 then refuse .controlInString rest
    else readStringFrom fuel (c :: taken) rest

/-- A string behind its opening quote. -/
def readString (cs : List Char) : Except Refusal (Taken String) :=
  readStringFrom (cs.length + 1) [] cs

/-! ## Values -/

/-- The remaining letters of a word. -/
def readWord (value : Json) : (letters : List Char) → List Char → Except Refusal (Taken Json)
  | [], cs => .ok (value, cs)
  | _ :: _, [] => refuse .endInValue []
  | l :: letters, c :: rest =>
    if c = l then readWord value letters rest else .error ⟨.expectedWord, byteCount (c :: rest) - 1⟩

/-- The items of an array behind its bracket; the first item, or a bracket, comes next.  `fuel` is
at least the number of characters left. -/
def readItems (readOne : List Char → Except Refusal (Taken Json)) :
    (fuel : Nat) → (first : Bool) → (items : List Json) → List Char → Except Refusal (Taken Json)
  | 0, _, _, cs => refuse .endInArray cs
  | fuel + 1, first, items, cs =>
    match skipSpace cs with
    | [] => refuse .endInArray []
    | ']' :: rest => .ok (.array items.reverse, rest)
    | c :: rest =>
      if first then do
        let (item, rest) ← readOne (c :: rest)
        readItems readOne fuel false (item :: items) rest
      else if c = ',' then
        match skipSpace rest with
        | [] => refuse .endInValue []
        | ']' :: rest => refuseNext .trailingComma (']' :: rest)
        | rest => do
          let (item, rest) ← readOne rest
          readItems readOne fuel false (item :: items) rest
      else refuseNext .expectedItemEnd (c :: rest)

/-- A member, behind the quote of its name. -/
def readMember (readOne : List Char → Except Refusal (Taken Json)) (cs : List Char) :
    Except Refusal (Taken (String × Json)) := do
  let (name, rest) ← readString cs
  match skipSpace rest with
  | [] => refuse .endInObject []
  | ':' :: rest =>
    let (value, rest) ← readOne rest
    return ((name, value), rest)
  | rest => refuseNext .expectedColon rest

/-- The members of an object behind its brace; the first member, or a brace, comes next.  `fuel`
is at least the number of characters left. -/
def readMembers (readOne : List Char → Except Refusal (Taken Json)) :
    (fuel : Nat) → (first : Bool) → Members → List Char → Except Refusal (Taken Json)
  | 0, _, _, cs => refuse .endInObject cs
  | fuel + 1, first, members, cs =>
    match skipSpace cs with
    | [] => refuse .endInObject []
    | '\x7d' :: rest => .ok (.object members, rest)
    | c :: rest =>
      if first then
        if c = '"' then do
          let ((name, value), rest) ← readMember readOne rest
          readMembers readOne fuel false (members.insert name value) rest
        else refuseNext .nameNotString (c :: rest)
      else if c = ',' then
        match skipSpace rest with
        | [] => refuse .endInValue []
        | '"' :: rest => do
          let ((name, value), rest) ← readMember readOne rest
          readMembers readOne fuel false (members.insert name value) rest
        | '\x7d' :: rest => refuseNext .trailingComma ('\x7d' :: rest)
        | rest => refuseNext .nameNotString rest
      else refuseNext .expectedMemberEnd (c :: rest)

/-- One value, with at most `depth` arrays and objects inside each other. -/
def readValue (depth : Nat) (cs : List Char) : Except Refusal (Taken Json) :=
  match skipSpace cs with
  | [] => refuse .endInValue []
  | c :: rest =>
    match c with
    | 'n' => readWord .null ['u', 'l', 'l'] rest
    | 't' => readWord (.bool true) ['r', 'u', 'e'] rest
    | 'f' => readWord (.bool false) ['a', 'l', 's', 'e'] rest
    | '-' => do
      let (n, rest) ← readNumber true rest
      return (.number n, rest)
    | '"' => do
      let (s, rest) ← readString rest
      return (.string s, rest)
    | '[' =>
      match depth with
      | 0 => refuseNext .tooDeep (c :: rest)
      | depth + 1 => readItems (readValue depth) (rest.length + 1) true [] rest
    | '\x7b' =>
      match depth with
      | 0 => refuseNext .tooDeep (c :: rest)
      | depth + 1 => readMembers (readValue depth) (rest.length + 1) true [] rest
    | c =>
      if isDigit c then do
        let (n, rest) ← readNumber false (c :: rest)
        return (.number n, rest)
      else refuseNext .expectedValue (c :: rest)

/-! ## Texts -/

/-- A place in a text: the line, and the bytes of the line up to the place. -/
structure Place where
  /-- The line, from one on. -/
  line : Nat
  /-- The number of bytes of the line that were seen. -/
  column : Nat
deriving DecidableEq, Repr

/-- The place behind the first `offset` bytes. -/
def placeAt (offset : Nat) : Place → List Char → Place
  | place, [] => place
  | place, c :: rest =>
    if offset = 0 then place
    else if offset < c.utf8Size then { place with column := place.column + offset }
    else
      placeAt (offset - c.utf8Size)
        (if c = '\n' then ⟨place.line + 1, 0⟩
          else { place with column := place.column + c.utf8Size })
        rest

/-- Why a text was refused, and where. -/
structure ReadError where
  /-- What is wrong. -/
  cause : ReadCause
  /-- Where it is. -/
  place : Place
deriving DecidableEq, Repr

/-- The text of a refusal. -/
def ReadError.message (e : ReadError) : String :=
  s!"{e.cause.message} at line {e.place.line} column {e.place.column}"

/-- One value with nothing behind it but white space. -/
def readAll (cs : List Char) : Except Refusal Json := do
  let (value, rest) ← readValue 127 cs
  match skipSpace rest with
  | [] => return value
  | rest => refuseNext .trailingText rest

/-- Reads a JSON text. -/
def read (text : String) : Except ReadError Json :=
  let cs := text.toList
  match readAll cs with
  | .ok value => .ok value
  | .error refusal =>
    .error ⟨refusal.cause, placeAt (byteCount cs - refusal.left) ⟨1, 0⟩ cs⟩

end ConfigCheck.Json
