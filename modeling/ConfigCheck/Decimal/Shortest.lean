import ConfigCheck.Decimal.Binary64

/-!
# The shortest decimal that reads back

A positive binary number is the nearest one to every real number in an interval around it.  This
module finds the decimal with the fewest digits in that interval, and of several with that many
digits the one nearest to the number, or the even one if two are equally near (`Binary64.shortest`).
All comparisons are exact, on natural numbers.

The search looks at the decimals with one digit, then two, and so on.  Seventeen digits always
suffice, and if any decimal of a given length lies in the interval, so does one of the two
neighbours of the number among the decimals of that length; so two candidates are tried for each
length.
-/

namespace ConfigCheck

/-- Decimal digits with a position: the number is `0.d₁d₂…dₙ * 10 ^ point`, the first and the
last digit are not zero. -/
structure Decimal where
  /-- The digits, most significant first. -/
  digits : List Char
  /-- Where the decimal point stands, counted from before the first digit. -/
  point : Int
deriving DecidableEq, Repr, Inhabited

/-- The reals that round to a positive finite number, as fractions over one denominator. -/
structure RoundingInterval where
  /-- Numerator of the number itself. -/
  value : Nat
  /-- Numerator of the lower end. -/
  lower : Nat
  /-- Numerator of the upper end. -/
  upper : Nat
  /-- The common denominator. -/
  den : Nat
  /-- Whether the ends round to the number too; a half goes to the even significand. -/
  closed : Bool
deriving Repr

namespace Binary64

/-- The interval of a positive finite number: half way to each neighbour.  Below a power of two
the neighbours are twice as close as above it. -/
def roundingInterval (x : Binary64) : RoundingInterval :=
  let unit := 2 ^ x.scale
  let m := x.significand
  let below := if x.fraction = 0 && 1 < x.biasedExponent then 1 else 2
  { value := 4 * m * unit
    lower := (4 * m - below) * unit
    upper := (4 * m + 2) * unit
    den := 2 ^ 1076
    closed := m % 2 == 0 }

end Binary64

namespace RoundingInterval

/-- Whether `num / den` rounds to the number. -/
def contains (i : RoundingInterval) (num den : Nat) : Bool :=
  if i.closed then i.lower * den ≤ num * i.den && num * i.den ≤ i.upper * den
  else i.lower * den < num * i.den && num * i.den < i.upper * den

/-- The distance from `num / den` to the number, times both denominators. -/
def distance (i : RoundingInterval) (num den : Nat) : Nat :=
  (num * i.den - i.value * den) + (i.value * den - num * i.den)

/-- The position of the decimal point of the number: the `p` with
`10 ^ (p - 1) ≤ value < 10 ^ p`.  Starting from an estimate by the binary logarithm, at most a
few steps up are needed. -/
def point (i : RoundingInterval) : Int :=
  let estimate : Int := ((i.value.log2 : Int) - i.den.log2 - 2) * 30103 / 100000
  climb 4 estimate
where
  /-- The first of the next positions that lies above the number. -/
  climb : Nat → Int → Int
    | 0, p => p
    | n + 1, p =>
      let above := if 0 ≤ p then i.value < 10 ^ p.toNat * i.den
        else i.value * 10 ^ (-p).toNat < i.den
      if above then p else climb n (p + 1)

/-- The grid of decimals with `count` digits has the spacing `10 ^ (point - count)`.  Of the two
grid points around the number, the nearer one that rounds to it, as a number of grid steps; half way
between them it is the even one. -/
def onGrid? (i : RoundingInterval) (point : Int) (count : Nat) : Option Nat :=
  let step : Int := point - count
  let num := 10 ^ step.toNat
  let den := 10 ^ (-step).toNat
  let low := i.value * den / (num * i.den)
  let candidates := [low, low + 1].filter fun c => i.contains (c * num) den
  match candidates with
  | [] => none
  | [c] => some c
  | c :: d :: _ =>
    let below := i.distance (c * num) den
    let above := i.distance (d * num) den
    if above < below || (above = below && c % 2 = 1) then some d else some c

/-- The first grid with a hit, from `count` digits on. -/
def search (i : RoundingInterval) (point : Int) (count : Nat) : Nat → Nat × Int
  | 0 => (0, 0)
  | fuel + 1 =>
    match i.onGrid? point count with
    | some c => (c, point - count)
    | none => i.search point (count + 1) fuel

end RoundingInterval

/-- The digits of a positive number of steps of size `10 ^ exponent`, without zeros at the
end. -/
def Decimal.ofSteps (steps : Nat) (exponent : Int) : Decimal :=
  let digits := Nat.toDigits 10 steps
  { digits := (digits.reverse.dropWhile (· == '0')).reverse
    point := digits.length + exponent }

/-- The shortest decimal that rounds to a positive finite number. -/
def Binary64.shortest (x : Binary64) : Decimal :=
  let i := x.roundingInterval
  let (steps, exponent) := i.search i.point 1 17
  Decimal.ofSteps steps exponent

end ConfigCheck
