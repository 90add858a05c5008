import ConfigCheck.Decimal.Shortest

/-!
# Layouts of decimal numbers

A `Notation` says how shortest digits are written out: up to which exponent the number is written
positionally, whether a whole number keeps a `.0`, and whether a positive exponent shows its
sign.  The three layouts in use are `Notation.json` for JSON text and messages, `Notation.key` for
a number that becomes a mapping key, and `Notation.plain`, which never uses an exponent.
-/

namespace ConfigCheck

/-- How the digits of a number are laid out. -/
structure Notation where
  /-- Numbers whose decimal exponent lies in `[low, high)` are written positionally; `none`
  writes every number positionally. -/
  positional : Option (Int × Int)
  /-- Whether a whole number in positional form ends in `.0`. -/
  keepsPoint : Bool
  /-- Whether a positive exponent is written with a plus sign. -/
  plusSign : Bool
deriving DecidableEq, Repr

namespace Notation

/-- JSON text: positional from `0.00001` up to below `10 ^ 16`, else an exponent with its sign. -/
def json : Notation := ⟨some (-5, 16), true, true⟩

/-- Numbers as mapping keys: as in JSON text, but a positive exponent has no sign. -/
def key : Notation := ⟨some (-5, 16), true, false⟩

/-- Digits and at most a decimal point. -/
def plain : Notation := ⟨none, false, false⟩

/-- Zeros in front of or behind the digits. -/
def zeros (n : Nat) : List Char := List.replicate n '0'

/-- Digits with the point at its place, padded with zeros up to it. -/
def writePositional (n : Notation) (d : Decimal) : List Char :=
  if d.point ≤ 0 then '0' :: '.' :: zeros (-d.point).toNat ++ d.digits
  else
    let whole := d.point.toNat
    if d.digits.length ≤ whole then
      d.digits ++ zeros (whole - d.digits.length) ++ if n.keepsPoint then ['.', '0'] else []
    else d.digits.take whole ++ '.' :: d.digits.drop whole

/-- One digit, the others behind a point, and the exponent. -/
def writeScientific (n : Notation) (d : Decimal) : List Char :=
  let exponent := d.point - 1
  let mantissa := match d.digits with
    | first :: second :: rest => first :: '.' :: second :: rest
    | digits => digits
  let sign := if exponent < 0 then ['-'] else if n.plusSign then ['+'] else []
  mantissa ++ 'e' :: sign ++ Nat.toDigits 10 exponent.natAbs

/-- The layout of a nonzero number without its sign. -/
def writeDecimal (n : Notation) (d : Decimal) : List Char :=
  match n.positional with
  | none => n.writePositional d
  | some (low, high) =>
    if low ≤ d.point - 1 && d.point - 1 < high then n.writePositional d
    else n.writeScientific d

/-- The text of a finite number; both zeros keep their sign. -/
def write (n : Notation) (x : Binary64) : String :=
  let sign := if x.negative then ['-'] else []
  let body := if x.isZero then '0' :: if n.keepsPoint then ['.', '0'] else []
    else n.writeDecimal x.shortest
  String.ofList (sign ++ body)

end Notation

end ConfigCheck
