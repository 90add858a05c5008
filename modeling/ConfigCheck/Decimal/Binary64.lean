/-!
# Binary64 numbers

A 64-bit binary floating-point number is kept as its bits, and every operation on it is exact
arithmetic on natural numbers followed by at most one rounding.  This module reads the sign, the
significand and the exponent off the bits, rounds a quotient of natural numbers to the nearest
number (`Binary64.ofRatio`, a half goes to the even neighbour), and derives product, quotient,
remainder and comparison from it.

Decimal text is not its concern: `Decimal/Shortest` finds digits and `Decimal/Notation` lays
them out.
-/

-- Powers are the built-in ones, also where powers in monoids are known.
attribute [instance (high), default_instance 20000] instPowNat

namespace ConfigCheck

/-- A 64-bit binary floating-point number, as its bits: one for the sign, eleven for the
exponent, fifty-two for the fraction. -/
structure Binary64 where
  /-- The sixty-four bits, sign first. -/
  bits : UInt64
deriving DecidableEq, Repr, Inhabited

namespace Binary64

/-! ## Reading the bits -/

/-- Whether the sign bit is set; it is for `-0.0`. -/
def negative (x : Binary64) : Bool := 2 ^ 63 ≤ x.bits.toNat

/-- The eleven exponent bits. -/
def biasedExponent (x : Binary64) : Nat := x.bits.toNat / 2 ^ 52 % 2 ^ 11

/-- The fifty-two fraction bits. -/
def fraction (x : Binary64) : Nat := x.bits.toNat % 2 ^ 52

/-- All exponent bits set mark the numbers that are not finite. -/
def isFinite (x : Binary64) : Bool := x.biasedExponent != 2047

/-- Not finite and with a fraction: not a number. -/
def isNaN (x : Binary64) : Bool := x.biasedExponent == 2047 && x.fraction != 0

/-- Not finite and without a fraction: an infinity. -/
def isInfinite (x : Binary64) : Bool := x.biasedExponent == 2047 && x.fraction == 0

/-- The magnitude of a finite number is `significand * 2 ^ (scale - 1074)`. -/
def significand (x : Binary64) : Nat :=
  if x.biasedExponent = 0 then x.fraction else 2 ^ 52 + x.fraction

/-- How many doublings above the smallest positive number the significand counts. -/
def scale (x : Binary64) : Nat := x.biasedExponent - 1

/-- Whether a finite number is one of the two zeros. -/
def isZero (x : Binary64) : Bool := x.biasedExponent == 0 && x.fraction == 0

/-- The magnitude counted in units of `2 ^ (-1074)`, the smallest positive number. -/
def units (x : Binary64) : Nat := x.significand * 2 ^ x.scale

/-! ## Building from the parts -/

/-- The number with the given sign whose other bits are `magnitude`. -/
def ofMagnitude (negative : Bool) (magnitude : Nat) : Binary64 :=
  ⟨UInt64.ofNat (magnitude + if negative then 2 ^ 63 else 0)⟩

/-- The zero of either sign. -/
def zero (negative : Bool) : Binary64 := ofMagnitude negative 0

/-- The infinity of either sign. -/
def infinity (negative : Bool) : Binary64 := ofMagnitude negative (2047 * 2 ^ 52)

/-- The quiet not-a-number with a clear sign. -/
def nan : Binary64 := ofMagnitude false (2047 * 2 ^ 52 + 2 ^ 51)

/-- `num / den` rounded to an integer, a half to the even neighbour. -/
def roundDiv (num den : Nat) : Nat :=
  let q := num / den
  let r := num % den
  if 2 * r < den then q
  else if den < 2 * r then q + 1
  else q + q % 2

/-- The number nearest to `num / den` with the given sign; a half goes to the even neighbour,
and what is too large for every finite number becomes an infinity.  The denominator is
positive.

`lead` is the position of the leading bit of the quotient, at most one too high; the significand
keeps fifty-three bits of it, fewer near zero, and the exponent field is the number of doublings
that were taken out, so a carry out of the significand lands in the exponent by itself. -/
def ofRatio (negative : Bool) (num den : Nat) : Binary64 :=
  if num = 0 then zero negative
  else
    let lead : Int := (num.log2 : Int) - den.log2
    let lead := if (if 0 ≤ lead then num < den * 2 ^ lead.toNat else num * 2 ^ (-lead).toNat < den)
      then lead - 1 else lead
    let shift : Int := max (lead - 52) (-1074)
    let q := if 0 ≤ shift then roundDiv num (den * 2 ^ shift.toNat)
      else roundDiv (num * 2 ^ (-shift).toNat) den
    let magnitude := (shift + 1074).toNat * 2 ^ 52 + q
    if 2047 * 2 ^ 52 ≤ magnitude then infinity negative else ofMagnitude negative magnitude

/-- The number nearest to a natural number. -/
def ofNat (n : Nat) : Binary64 := ofRatio false n 1

/-- The number nearest to an integer. -/
def ofInt (i : Int) : Binary64 := ofRatio (i < 0) i.natAbs 1

/-- The number nearest to `digits * 10 ^ exponent`.  Far outside the range of the format the
answer is known without the power: a nonzero digit string with more than 309 places before the
point is infinite, and one that starts after the 400th place behind it is zero. -/
def ofDecimal (negative : Bool) (digits : Nat) (exponent : Int) : Binary64 :=
  if digits = 0 then zero negative
  else
    let places : Int := (Nat.toDigits 10 digits).length + exponent
    if 310 < places then infinity negative
    else if places < -400 then zero negative
    else if 0 ≤ exponent then ofRatio negative (digits * 10 ^ exponent.toNat) 1
    else ofRatio negative digits (10 ^ (-exponent).toNat)

/-- The same magnitude with the sign reversed. -/
def neg (x : Binary64) : Binary64 :=
  if x.negative then ⟨UInt64.ofNat (x.bits.toNat - 2 ^ 63)⟩
  else ⟨UInt64.ofNat (x.bits.toNat + 2 ^ 63)⟩

/-! ## Arithmetic -/

/-- The product of two finite numbers, rounded once. -/
def mul (x y : Binary64) : Binary64 :=
  ofRatio (x.negative != y.negative) (x.units * y.units) (2 ^ (2 * 1074))

/-- The quotient of two finite numbers, rounded once; the divisor is not zero. -/
def div (x y : Binary64) : Binary64 :=
  ofRatio (x.negative != y.negative) x.units y.units

/-- The remainder of a truncating division.  It has the sign of the dividend and is exact, so
the rounding in `ofRatio` changes nothing. -/
def rem (x y : Binary64) : Binary64 :=
  if !x.isFinite || y.isNaN || y.isZero then nan
  else if y.isInfinite then x
  else ofRatio x.negative (x.units % y.units) (2 ^ 1074)

/-- The fractional part, with the sign of the number. -/
def fract (x : Binary64) : Binary64 :=
  if !x.isFinite then nan else ofRatio x.negative (x.units % 2 ^ 1074) (2 ^ 1074)

/-- Whether a finite number has no fractional part. -/
def isIntegral (x : Binary64) : Bool := x.isFinite && x.units % 2 ^ 1074 == 0

/-! ## Order -/

/-- A finite number counted in units of `2 ^ (-1074)`, with its sign. -/
def signedUnits (x : Binary64) : Int := if x.negative then -(x.units : Int) else x.units

/-- Numeric equality: the two zeros are equal, and nothing equals a not-a-number. -/
def same (x y : Binary64) : Bool :=
  if x.isNaN || y.isNaN then false
  else if x.isFinite && y.isFinite then x.signedUnits == y.signedUnits
  else x.bits == y.bits

/-- A not-a-number differs from itself. -/
theorem same_self_of_isNaN {x : Binary64} (h : x.isNaN = true) : x.same x = false := by
  simp [same, h]

end Binary64

end ConfigCheck
