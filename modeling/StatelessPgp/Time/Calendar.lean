/-!
# The civil calendar

Dates are those of the Gregorian calendar, extended to all years, and a day is
numbered by its distance from 1 January 1970.  Years are counted from March, so
that the leap day comes last; 400 such years have a fixed length, and within
them a day is found by dividing by the length of a century, of four years, of a
year and of five months.
-/

namespace StatelessPgp

/-- A year, a month from one to twelve, and a day of the month from one. -/
structure Date where
  /-- The year; zero comes before one. -/
  year : Int
  /-- The month, one for January. -/
  month : Nat
  day : Nat
  deriving DecidableEq, Repr

def isLeapYear (year : Int) : Bool :=
  year % 4 == 0 && (year % 100 != 0 || year % 400 == 0)

/-- The number of days of a month, and zero for a month that does not exist. -/
def daysInMonth (year : Int) (month : Nat) : Nat :=
  match month with
  | 1 | 3 | 5 | 7 | 8 | 10 | 12 => 31
  | 4 | 6 | 9 | 11 => 30
  | 2 => if isLeapYear year then 29 else 28
  | _ => 0

namespace Date

def isValid (date : Date) : Bool :=
  1 ≤ date.day && date.day ≤ daysInMonth date.year date.month

/-- The months that have passed since March. -/
def monthFromMarch (date : Date) : Nat :=
  (date.month + 9) % 12

/-- The year in which the year from March began. -/
def yearFromMarch (date : Date) : Int :=
  if date.month ≤ 2 then date.year - 1 else date.year

/-- The days of the year from March that have passed. -/
def dayFromMarch (date : Date) : Nat :=
  (153 * date.monthFromMarch + 2) / 5 + date.day - 1

/-- The days from the first of March of a year to 1 January 1970, which lies in
the year from March 1969. -/
def daysBeforeYear (year : Int) : Int :=
  365 * year + year / 4 - year / 100 + year / 400 - 719468

/-- The number of a date. -/
def dayNumber (date : Date) : Int :=
  daysBeforeYear date.yearFromMarch + date.dayFromMarch

/-- The year within 400 years from March, and the day within it, of a day
within 400 years. -/
def yearOfCycle (dayOfCycle : Nat) : Nat × Nat :=
  let century := min 3 (dayOfCycle / 36524)
  let dayOfCentury := dayOfCycle - century * 36524
  let quadrennium := dayOfCentury / 1461
  let dayOfQuadrennium := dayOfCentury - quadrennium * 1461
  let year := min 3 (dayOfQuadrennium / 365)
  (century * 100 + quadrennium * 4 + year, dayOfQuadrennium - year * 365)

def ofDayNumber (number : Int) : Date :=
  let shifted := number + 719468
  let cycle := shifted / 146097
  let (yearInCycle, dayOfYear) := yearOfCycle (shifted % 146097).toNat
  let month := (5 * dayOfYear + 2) / 153
  let year := cycle * 400 + yearInCycle
  { year := if month < 10 then year else year + 1
    month := if month < 10 then month + 3 else month - 9
    day := dayOfYear - (153 * month + 2) / 5 + 1 }

end Date
end StatelessPgp
