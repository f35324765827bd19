import RangeTest.Numeral

namespace RangeTest

/-- A time of day on a date of the Gregorian calendar, without a time zone. -/
structure Moment where
  year : Int
  month : Nat
  day : Nat
  hour : Nat
  minute : Nat
  /-- A leap second is number 60 of its minute. -/
  second : Nat
  nanosecond : Nat
  deriving DecidableEq, Repr

/-- Every fourth year is a leap year, but of the full centuries only every fourth. -/
def Moment.isLeapYear (year : Int) : Bool :=
  year % 4 == 0 && (year % 100 != 0 || year % 400 == 0)

def Moment.daysInMonth (year : Int) (month : Nat) : Nat :=
  if month = 2 then if isLeapYear year then 29 else 28
  else if month = 4 ∨ month = 6 ∨ month = 9 ∨ month = 11 then 30 else 31

/-- The first and the last year that a capture time may name. -/
def Moment.yearRange : Int × Int := (-262143, 262142)

def Moment.isValid (t : Moment) : Bool :=
  yearRange.1 ≤ t.year && t.year ≤ yearRange.2 &&
    1 ≤ t.month && t.month ≤ 12 && 1 ≤ t.day && t.day ≤ daysInMonth t.year t.month &&
    t.hour ≤ 23 && t.minute ≤ 59 && t.second ≤ 60 && t.nanosecond < 1000000000

/-- Four digits for a year of four digits or fewer, else a sign and at least four digits. -/
def Moment.writeYear (year : Int) : List Char :=
  if 0 ≤ year ∧ year ≤ 9999 then Numeral.writePadded 4 year.toNat
  else (if year < 0 then '-' else '+') :: Numeral.writePadded 4 year.natAbs

/-- Writes a moment with a fraction of at most nine places; further places are cut off. -/
def Moment.write (places : Nat) (t : Moment) : List Char :=
  let two := Numeral.writePadded 2
  writeYear t.year ++ '-' :: two t.month ++ '-' :: two t.day ++ 'T' :: two t.hour ++
    ':' :: two t.minute ++ ':' :: two t.second ++
    '.' :: Numeral.writePadded places (t.nanosecond / Nat.pow 10 (9 - places))

end RangeTest
