import StatelessPgp.Time.Timestamp

/-!
# Readings of a clock

What a written time says before it is placed on the time line: a date, a time of
day whose second may be the leap second 60, and a fraction.
-/

namespace StatelessPgp

/-- A date and a time of day as written. -/
structure Reading where
  year : Int := 0
  month : Nat := 0
  day : Nat := 0
  hour : Nat := 0
  minute : Nat := 0
  second : Nat := 0
  /-- Billionths of the second. -/
  nanos : Nat := 0
  deriving DecidableEq, Repr

namespace Reading

def date (reading : Reading) : Date :=
  ⟨reading.year, reading.month, reading.day⟩

/-- Whether a reading names a time of some day. -/
def isValid (reading : Reading) : Bool :=
  reading.date.isValid && reading.hour ≤ 23 && reading.minute ≤ 59 &&
    reading.second ≤ 60

/-- The timestamp of a reading on a clock that is ahead of UTC by so many
seconds. -/
def timestamp? (reading : Reading) (offset : Int) : Option Timestamp :=
  if reading.isValid then
    let second := min 59 reading.second
    let leap := if reading.second = 60 then 1000000000 else 0
    Timestamp.ofParts?
      (reading.date.dayNumber * 86400 + reading.hour * 3600 +
        reading.minute * 60 + second - offset)
      (reading.nanos + leap)
  else none

end Reading
end StatelessPgp
