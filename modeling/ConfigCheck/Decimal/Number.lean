import ConfigCheck.Decimal.Notation

/-!
# Numbers of documents

A number of a document is an exact integer or a binary floating-point number.  The two are
different numbers even where they have the same value: `1` and `1.0` are written differently, and
some rules of older schema drafts tell them apart.  Comparison by value (`Number.lt`,
`Number.same`) is exact and ignores the difference.
-/

namespace ConfigCheck

/-- A number of a document. -/
inductive Number where
  /-- An integer, exact. -/
  | int (value : Int)
  /-- A binary floating-point number. -/
  | float (value : Binary64)
deriving DecidableEq, Repr, Inhabited

namespace Number

/-- The nearest floating-point number. -/
def toBinary64 : Number → Binary64
  | .int i => .ofInt i
  | .float x => x

/-- The integer of 64 bits with a sign that the number is. -/
def signed? : Number → Option Int
  | .int i => if -2 ^ 63 ≤ i && i < 2 ^ 63 then some i else none
  | .float _ => none

/-- The integer of 64 bits without a sign that the number is. -/
def unsigned? : Number → Option Nat
  | .int i => if 0 ≤ i && i < 2 ^ 64 then some i.toNat else none
  | .float _ => none

/-- The text of a finite number. -/
def write (n : Notation) : Number → String
  | .int i => toString i
  | .float x => n.write x

/-- The value of a finite number in units of `2 ^ (-1074)`, exact for both kinds. -/
def units : Number → Int
  | .int i => i * 2 ^ 1074
  | .float x => x.signedUnits

/-- Exact comparison by value of finite numbers. -/
def lt (a b : Number) : Bool := a.units < b.units

/-- Equality by value of finite numbers. -/
def same (a b : Number) : Bool := a.units == b.units

/-- Whether the number has no fractional part. -/
def isIntegral : Number → Bool
  | .int _ => true
  | .float x => x.isIntegral

@[simp] theorem isIntegral_int (i : Int) : (int i).isIntegral = true := rfl

end Number

end ConfigCheck
