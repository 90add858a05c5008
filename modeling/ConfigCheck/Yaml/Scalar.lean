import ConfigCheck.Decimal.Number
import ConfigCheck.Yaml.Token
import ConfigCheck.Text.Utf8

/-!
# The meaning of scalars

A plain scalar without a tag is null, a boolean, an integer, a floating-point number or, failing
all that, a string.  Integers may have a sign and may be hexadecimal, octal or binary; digits
behind a leading zero are a string.  The standard tags for null, booleans, integers and
floating-point numbers ask for one of these meanings in particular, whatever the style.
-/

namespace ConfigCheck.Yaml

/-- What a scalar can mean. -/
inductive ScalarValue where
  | null
  | bool (value : Bool)
  | number (value : Number)
  | string (text : String)
deriving DecidableEq, Repr, Inhabited

/-- Why a scalar has no meaning. -/
inductive ScalarProblem where
  /-- The tag asks for null. -/
  | notNull (text : String)
  /-- The tag asks for a boolean. -/
  | notBool (text : String)
  /-- The tag asks for an integer. -/
  | notInteger (text : String)
  /-- The tag asks for a floating-point number. -/
  | notFloat (text : String)
  /-- An integer that fits into 128 bits without a sign, but not into 64 bits. -/
  | wideUnsigned (value : Nat)
  /-- A negative integer that fits into 128 bits, but not into 64 bits. -/
  | wideSigned (value : Int)
deriving DecidableEq, Repr, Inhabited

/-! ## Integers -/

/-- The value of a digit of any base up to sixteen. -/
def digitIn? (base : Nat) (c : Char) : Option Nat :=
  (hexValue? c).filter (· < base)

/-- The number that consists of digits of a base alone. -/
def digits? (base : Nat) (cs : List Char) : Option Nat :=
  if cs = [] then none
  else cs.foldlM (fun n c => (digitIn? base c).map (n * base + ·)) 0

/-- The text without a sign in front. -/
def dropSign : List Char → List Char
  | '+' :: rest => rest
  | '-' :: rest => rest
  | cs => cs

/-- The text without a plus sign in front. -/
def dropPlus : List Char → List Char
  | '+' :: rest => rest
  | cs => cs

/-- Whether the text starts with a sign. -/
def startsWithSign (cs : List Char) : Bool := cs.head? = some '+' || cs.head? = some '-'

/-- Digits behind a leading zero: such a text is no number. -/
def isZeroPadded (cs : List Char) : Bool :=
  match dropSign cs with
  | '0' :: d :: rest => (d :: rest).all isDigit
  | _ => false

/-- The base that `0x`, `0o` or `0b` stands for, and the digits behind it. -/
def based? : List Char → Option (Nat × List Char)
  | '0' :: 'x' :: rest => some (16, rest)
  | '0' :: 'o' :: rest => some (8, rest)
  | '0' :: 'b' :: rest => some (2, rest)
  | _ => none

/-- An integer below `bound` without a minus sign. -/
def natural? (bound : Nat) (cs : List Char) : Option Nat :=
  let unsigned := dropPlus cs
  match based? unsigned with
  | some (base, digits) => (digits? base digits).filter (· < bound)
  | none =>
    if startsWithSign unsigned || isZeroPadded unsigned then none
    else (digits? 10 unsigned).filter (· < bound)

/-- The magnitude of an integer with a minus sign, at most `bound`. -/
def negative? (bound : Nat) : List Char → Option Nat
  | '-' :: rest =>
    match based? rest with
    | some (base, digits) => (digits? base digits).filter (· ≤ bound)
    | none => if isZeroPadded rest then none else (digits? 10 rest).filter (· ≤ bound)
  | _ => none

/-- The integer that a text writes; one of more than 64 bits is refused, one of more than 128 bits
is none. -/
def integer? (cs : List Char) : Option (Except ScalarProblem Int) :=
  match natural? (2 ^ 64) cs, negative? (2 ^ 63) cs, natural? (2 ^ 128) cs,
      negative? (2 ^ 127) cs with
  | some n, _, _, _ => some (.ok n)
  | none, some n, _, _ => some (.ok (-n))
  | none, none, some n, _ => some (.error (.wideUnsigned n))
  | none, none, none, some n => some (.error (.wideSigned (-n)))
  | none, none, none, none => none

/-! ## Floating-point numbers -/

/-- The exponent of a decimal: nothing, or `e` with at least one digit and perhaps a sign. -/
def exponent? : List Char → Option Int
  | [] => some 0
  | e :: rest =>
    if e = 'e' || e = 'E' then
      let magnitude := (digits? 10 (dropSign rest)).map Int.ofNat
      if rest.head? = some '-' then magnitude.map (-·) else magnitude
    else none

/-- The number that a decimal without a sign writes, rounded to nearest. -/
def decimal? (negative : Bool) (cs : List Char) : Option Binary64 :=
  let whole := cs.takeWhile isDigit
  let behind := cs.dropWhile isDigit
  let (fraction, behind) := match behind with
    | '.' :: rest => (rest.takeWhile isDigit, rest.dropWhile isDigit)
    | _ => ([], behind)
  match digits? 10 (whole ++ fraction), exponent? behind with
  | some n, some e => some (.ofDecimal negative n (e - fraction.length))
  | _, _ => none

/-- The floating-point number that a text writes.  A decimal must be finite. -/
def float? (cs : List Char) : Option Binary64 :=
  let text := String.ofList cs
  let unsigned := dropPlus cs
  if cs.head? = some '+' && startsWithSign unsigned then none
  else if String.ofList unsigned ∈ [".inf", ".Inf", ".INF"] then some (.infinity false)
  else if text ∈ ["-.inf", "-.Inf", "-.INF"] then some (.infinity true)
  else if text ∈ [".nan", ".NaN", ".NAN"] then some .nan
  else
    let decimal := match unsigned with
      | '-' :: rest => decimal? true rest
      | _ => decimal? false unsigned
    decimal.filter Binary64.isFinite

/-! ## Scalars -/

/-- The spellings of null. -/
def isNull (text : String) : Bool := text ∈ ["null", "Null", "NULL", "~"]

/-- The spellings of the booleans. -/
def bool? (text : String) : Option Bool :=
  if text ∈ ["true", "True", "TRUE"] then some true
  else if text ∈ ["false", "False", "FALSE"] then some false
  else none

/-- The meaning of a plain scalar without a tag. -/
def resolvePlain (text : String) : Except ScalarProblem ScalarValue :=
  let cs := text.toList
  if text = "" || isNull text then .ok .null
  else
    match bool? text, integer? cs with
    | some b, _ => .ok (.bool b)
    | none, some (.ok i) => .ok (.number (.int i))
    | none, some (.error problem) => .error problem
    | none, none =>
      match if isZeroPadded cs then none else float? cs with
      | some x => .ok (.number (.float x))
      | none => .ok (.string text)

/-- A tag of the standard set. -/
def standardTag (name : String) : TagText := Utf8.encode ("tag:yaml.org,2002:" ++ name)

/-- The meaning of a scalar that a local tag does not decide. -/
def resolveScalar (tag : Option TagText) (text : String) (style : ScalarStyle) :
    Except ScalarProblem ScalarValue :=
  match tag with
  | none => if style = .plain then resolvePlain text else .ok (.string text)
  | some tag =>
    if tag = standardTag "bool" then
      match bool? text with
      | some b => .ok (.bool b)
      | none => .error (.notBool text)
    else if tag = standardTag "int" then
      match integer? text.toList with
      | some (.ok i) => .ok (.number (.int i))
      | some (.error problem) => .error problem
      | none => .error (.notInteger text)
    else if tag = standardTag "float" then
      match float? text.toList with
      | some x => .ok (.number (.float x))
      | none => .error (.notFloat text)
    else if tag = standardTag "null" then
      if isNull text then .ok .null else .error (.notNull text)
    else if tag.head? = some 0x21 && style = .plain then resolvePlain text
    else .ok (.string text)

end ConfigCheck.Yaml
