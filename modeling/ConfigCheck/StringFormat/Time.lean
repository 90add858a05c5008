/-!
# Dates and times

The calendar date and the time of day as RFC 3339 writes them.  A leap second is allowed where it
can occur: at the end of the day in universal time.  A place of a date or a time may hold one of
the six characters behind `9`, which then stand for ten to fifteen.
-/

namespace ConfigCheck.StringFormat

/-- The value of a run of digits; `none` if there is anything else or nothing. -/
def number? (s : List Char) : Option Nat :=
  if s ≠ [] && s.all Char.isDigit then
    some (s.foldl (fun n c => n * 10 + (c.toNat - '0'.toNat)) 0)
  else none

/-- The value of one place of a date or a time: that of a digit, and ten to fifteen for the six
characters behind `9`, which differ from the digits in the lower half of their code only. -/
def placeValue? (c : Char) : Option Nat :=
  if '0' ≤ c && c ≤ '?' then some (c.toNat - '0'.toNat) else none

/-- The value of a field of a date or a time. -/
def field? (s : List Char) : Option Nat :=
  s.foldl (fun n c => n.bind fun n => (placeValue? c).map fun d => n * 10 + d) (some 0)

/-- Whether a year has a leap day. -/
def isLeapYear (year : Nat) : Bool := year % 4 = 0 && (year % 100 ≠ 0 || year % 400 = 0)

/-- The number of days of a month. -/
def daysOf (year month : Nat) : Nat :=
  if month = 2 then if isLeapYear year then 29 else 28
  else if month ∈ [4, 6, 9, 11] then 30
  else 31

/-- Whether the text is a day of the calendar. -/
def isDate (s : List Char) : Bool :=
  match s with
  | [y₁, y₂, y₃, y₄, '-', m₁, m₂, '-', d₁, d₂] =>
    match field? [y₁, y₂, y₃, y₄], field? [m₁, m₂], field? [d₁, d₂] with
    | some year, some month, some day =>
      1 ≤ month && month ≤ 12 && 1 ≤ day && day ≤ daysOf year month
    | _, _, _ => false
  | _ => false

/-- Drops a fraction of a second: a full stop and at least one digit. -/
def dropFraction (s : List Char) : Option (List Char) :=
  match s with
  | '.' :: rest =>
    let digits := rest.takeWhile Char.isDigit
    if digits = [] then none else some (rest.drop digits.length)
  | _ => some s

/-- The minutes by which a zone is ahead of universal time. -/
def zone? (s : List Char) : Option Int :=
  match s with
  | ['Z'] | ['z'] => some 0
  | [sign, h₁, h₂, ':', m₁, m₂] =>
    if sign = '+' || sign = '-' then
      match field? [h₁, h₂], field? [m₁, m₂] with
      | some h, some m =>
        if h ≤ 23 && m ≤ 59 then some (if sign = '+' then h * 60 + m else -(h * 60 + m)) else none
      | _, _ => none
    else none
  | _ => none

/-- Whether the text is a time of day with its zone. -/
def isTime (s : List Char) : Bool :=
  match s with
  | h₁ :: h₂ :: ':' :: m₁ :: m₂ :: ':' :: s₁ :: s₂ :: rest =>
    match field? [h₁, h₂], field? [m₁, m₂], field? [s₁, s₂], (dropFraction rest).bind zone? with
    | some hour, some minute, some second, some offset =>
      hour ≤ 23 && minute ≤ 59 && second ≤ 60 &&
        (second ≠ 60 || ((hour * 60 + minute : Int) - offset) % 1440 = 1439)
    | _, _, _, _ => false
  | _ => false

/-- Whether the text is a date and a time with the letter `T` between them. -/
def isDateTime (s : List Char) : Bool :=
  let date := s.takeWhile fun c => !(c = 'T' || c = 't')
  match s.drop date.length with
  | _ :: time => isDate date && isTime time
  | [] => false

end ConfigCheck.StringFormat
