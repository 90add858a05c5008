import ConfigCheck.Regex.Pattern
import ConfigCheck.Schema.Complaint
import ConfigCheck.StringFormat.Basic
import ConfigCheck.Json.Reader
import ConfigCheck.Text.Utf8

/-!
# Assertions

An assertion is a rule without schemas inside it: it looks at one value and holds or does not.
A rule for one type of value holds of all values of other types.
-/

namespace ConfigCheck

namespace Json

/-- Equality of values by content: numbers are compared by value. -/
def same (a b : Json) : Bool :=
  match a, b with
  | .null, .null => true
  | .bool x, .bool y => x == y
  | .number x, .number y => x.same y
  | .string x, .string y => x == y
  | .array xs, .array ys => sameItems xs ys
  | .object xs, .object ys => sameMembers xs ys
  | _, _ => false
where
  /-- Equality of lists, item by item. -/
  sameItems : List Json → List Json → Bool
    | [], [] => true
    | x :: xs, y :: ys => x.same y && sameItems xs ys
    | _, _ => false
  /-- Equality of members, name by name. -/
  sameMembers : List (String × Json) → List (String × Json) → Bool
    | [], [] => true
    | (m, x) :: xs, (n, y) :: ys => m == n && x.same y && sameMembers xs ys
    | _, _ => false

/-- Equality of values by content where the two zeros differ. -/
def identical (a b : Json) : Bool :=
  match a, b with
  | .number x, .number y => x.same y && x.toBinary64.bits == y.toBinary64.bits
  | .array xs, .array ys => identicalItems xs ys
  | .object xs, .object ys => identicalMembers xs ys
  | a, b => a.same b
where
  /-- Equality of lists, item by item. -/
  identicalItems : List Json → List Json → Bool
    | [], [] => true
    | x :: xs, y :: ys => x.identical y && identicalItems xs ys
    | _, _ => false
  /-- Equality of members, name by name. -/
  identicalMembers : List (String × Json) → List (String × Json) → Bool
    | [], [] => true
    | (m, x) :: xs, (n, y) :: ys => m == n && x.identical y && identicalMembers xs ys
    | _, _ => false

/-- Whether no two items of a list stand in a relation. -/
def distinctBy (related : Json → Json → Bool) : List Json → Bool
  | [] => true
  | v :: rest => !rest.any (related v) && distinctBy related rest

/-- Whether no two items are equal.  Up to fifteen items are compared with each other; more items
are told apart by the bits of their numbers too. -/
def allDistinct (items : List Json) : Bool :=
  if items.length ≤ 15 then distinctBy same items else distinctBy identical items

end Json

namespace Number

/-- The distance from one to the next floating-point number: `2 ^ (-52)`. -/
def epsilonUnits : Int := 2 ^ (1074 - 52)

/-- Whether two numbers differ by less than `2 ^ (-52)`, after rounding to floating point. -/
def near (a b : Number) : Bool :=
  let x := a.toBinary64
  let y := b.toBinary64
  x.same y || (x.signedUnits - y.signedUnits).natAbs < epsilonUnits

/-- The shortest decimal of a number as an integer times a power of ten. -/
def decimalParts (x : Binary64) : Int × Int :=
  if x.isZero then (0, 0)
  else
    let d := x.shortest
    let digits := d.digits.foldl (fun n c => n * 10 + (c.toNat - '0'.toNat)) 0
    (if x.negative then -digits else digits, d.point - d.digits.length)

/-- Whether the quotient of the shortest decimals is an integer. -/
def dividesExactly (x y : Binary64) : Bool :=
  let (m, i) := decimalParts x
  let (n, j) := decimalParts y
  let num := m * 10 ^ (i - j).toNat
  let den := n * 10 ^ (j - i).toNat
  den != 0 && num % den == 0

/-- Whether a number is a multiple of another.  For a divisor without fractional part the division
leaves nothing; for another one the quotient is integral up to `2 ^ (-52)` above, and where it is
beyond all floating-point numbers the decimals decide. -/
def isMultipleOf (a divisor : Number) : Bool :=
  let x := a.toBinary64
  let y := divisor.toBinary64
  if y.isIntegral then x.isIntegral && (x.rem y).isZero
  else
    let q := x.div y
    if q.isFinite then q.fract.signedUnits < epsilonUnits else dividesExactly x y

end Number

namespace Schema

/-- Decodes base 64 with padding. -/
def base64Decode? (s : List Char) : Option (List UInt8) :=
  match s with
  | [] => some []
  | a :: b :: '=' :: ['='] => do
    let n := (← digit a) * 64 + (← digit b)
    if n % 16 = 0 then some [UInt8.ofNat (n / 16)] else none
  | a :: b :: c :: ['='] => do
    let n := ((← digit a) * 64 + (← digit b)) * 64 + (← digit c)
    if n % 4 = 0 then some [UInt8.ofNat (n / 1024), UInt8.ofNat (n / 4 % 256)] else none
  | a :: b :: c :: d :: rest => do
    let n := (((← digit a) * 64 + (← digit b)) * 64 + (← digit c)) * 64 + (← digit d)
    let bytes ← base64Decode? rest
    some (UInt8.ofNat (n / 65536) :: UInt8.ofNat (n / 256 % 256) :: UInt8.ofNat (n % 256) :: bytes)
  | _ => none
where
  /-- The value of a digit. -/
  digit (c : Char) : Option Nat :=
    if c.isUpper then some (c.toNat - 'A'.toNat)
    else if c.isLower then some (c.toNat - 'a'.toNat + 26)
    else if c.isDigit then some (c.toNat - '0'.toNat + 52)
    else if c = '+' then some 62
    else if c = '/' then some 63
    else none

/-- The encoding that is checked. -/
def knownEncoding : String := "base64"

/-- The kind of content that is checked. -/
def knownMediaType : String := "application/json"

/-- A rule without schemas inside it. -/
inductive Assertion where
  /-- There is no such value. -/
  | never
  /-- The value is of the type. -/
  | type (strict : Bool) (expected : ValueType)
  /-- The value is of one of the types. -/
  | types (strict : Bool) (expected : List ValueType)
  /-- The value is this one. -/
  | const (expected : Json)
  /-- The value is one of these. -/
  | enum (options : List Json)
  /-- The number is at least this one. -/
  | minimum (limit : Number)
  /-- The number is at most this one. -/
  | maximum (limit : Number)
  /-- The number is greater than this one. -/
  | exclusiveMinimum (limit : Number)
  /-- The number is less than this one. -/
  | exclusiveMaximum (limit : Number)
  /-- The number is a multiple of this one. -/
  | multipleOf (divisor : Number)
  /-- The string has at least so many characters. -/
  | minLength (limit : Nat)
  /-- The string has at most so many characters. -/
  | maxLength (limit : Nat)
  /-- The string matches the pattern somewhere. -/
  | pattern (p : Regex.Pattern)
  /-- The string has the format. -/
  | format (f : StringFormat)
  /-- The list has at least so many items. -/
  | minItems (limit : Nat)
  /-- The list has at most so many items. -/
  | maxItems (limit : Nat)
  /-- No two items are equal. -/
  | uniqueItems
  /-- The list has no items behind the first ones. -/
  | noItemsAfter (count : Nat)
  /-- The members are there. -/
  | required (names : List String)
  /-- If the first member is there, so are the others. -/
  | requiredWith (trigger : String) (names : List String)
  /-- There are at least so many members. -/
  | minProperties (limit : Nat)
  /-- There are at most so many members. -/
  | maxProperties (limit : Nat)
  /-- The string is encoded in base 64. -/
  | encoded
  /-- The string is the text of a value. -/
  | holdsJson
  /-- The string is the text of a value, encoded in base 64. -/
  | encodedJson
deriving Repr, Inhabited

namespace Assertion

/-- One complaint about the rule itself, unless a condition holds. -/
def demand (holds : Bool) (complaint : Complaint) : List Complaint :=
  if holds then [] else [complaint]

/-- Whether a value equals the expected one; two numbers need only be near. -/
def isExpected (expected value : Json) : Bool :=
  match expected, value with
  | .number a, .number b => a.near b
  | a, b => a.same b

/-- The names that are not among the members. -/
def missing (names : List String) (members : Json.Members) : List String :=
  names.filter fun n => !Json.Members.has members n

/-- Whether the text is that of a value. -/
def isJsonText (s : String) : Bool :=
  match Json.read s with
  | .ok _ => true
  | .error _ => false

/-- What the rule has against a value.  Almost all complaints are about the rule itself; content
has complaints about its encoding, and one about no rule. -/
def failures (a : Assertion) (keyword : String) (value : Json) : List Failure :=
  let here (complaints : List Complaint) : List Failure :=
    complaints.map fun c => { place := [], rule := [keyword], complaint := c }
  match a, value with
  | never, v => here [.falseSchema v]
  | type strict t, v => here <| demand (t.accepts strict v) (.type v t)
  | types strict ts, v => here <| demand (ts.any (·.accepts strict v)) (.types v ts)
  | const expected, v => here <| demand (isExpected expected v) (.const expected)
  | enum options, v => here <| demand (options.any (·.same v)) (.enum v options)
  | minimum n, .number m => here <| demand (!m.lt n) (.minimum value n)
  | maximum n, .number m => here <| demand (!n.lt m) (.maximum value n)
  | exclusiveMinimum n, .number m => here <| demand (n.lt m) (.exclusiveMinimum value n)
  | exclusiveMaximum n, .number m => here <| demand (m.lt n) (.exclusiveMaximum value n)
  | multipleOf n, .number m => here <| demand (m.isMultipleOf n) (.multipleOf value n)
  | minLength n, .string s => here <| demand (n ≤ s.length) (.minLength value n)
  | maxLength n, .string s => here <| demand (s.length ≤ n) (.maxLength value n)
  | pattern p, .string s =>
    match p.matches? s with
    | .ok b => here <| demand b (.pattern value p.source)
    | .error cause => here [.patternLimit cause]
  | format f, .string s => here <| demand (f.accepts s) (.format value f.name)
  | minItems n, .array items => here <| demand (n ≤ items.length) (.minItems value n)
  | maxItems n, .array items => here <| demand (items.length ≤ n) (.maxItems value n)
  | uniqueItems, .array items => here <| demand (Json.allDistinct items) (.uniqueItems value)
  | noItemsAfter n, .array items =>
    here <| demand (items.length ≤ n) (.additionalItems (items.drop n))
  | required names, .object members => here <| (missing names members).map .required
  | requiredWith trigger names, .object members =>
    if Json.Members.has members trigger then here <| (missing names members).map .required else []
  | minProperties n, .object members =>
    here <| demand (n ≤ members.length) (.minProperties value n)
  | maxProperties n, .object members =>
    here <| demand (members.length ≤ n) (.maxProperties value n)
  | encoded, .string s =>
    here <| demand (base64Decode? s.toList).isSome (.contentEncoding value knownEncoding)
  | holdsJson, .string s => here <| demand (isJsonText s) (.contentMediaType value knownMediaType)
  | encodedJson, .string s =>
    match base64Decode? s.toList with
    | none => [⟨[], ["contentEncoding"], .contentEncoding value knownEncoding⟩]
    | some bytes =>
      match Utf8.decode? bytes with
      | none => [⟨[], [], .notText (Utf8.faultMessage bytes)⟩]
      | some text =>
        [⟨[], ["contentMediaType"], .contentMediaType value knownMediaType⟩].filter fun _ =>
          !isJsonText text
  | _, _ => []

end Assertion

end Schema

end ConfigCheck
