import StatelessPgp.Text.Digits
import StatelessPgp.Time.Calendar

/-!
# Points in time

A timestamp counts seconds from the start of 1970 in UTC.  A leap second is the
second before it with a fraction of one or more.  That may be any second, though
clocks insert leap seconds at the end of a minute only.  Timestamps are written as
`YYYY-MM-DDThh:mm:ssZ`, without their fraction.
-/

namespace StatelessPgp

/-- A point in time in the years from -262143 to 262142. -/
structure Timestamp where
  /-- Seconds since the start of 1970. -/
  seconds : Int
  /-- Billionths of a second beyond, up to two seconds. -/
  nanos : Nat
  /-- No timestamp lies before the year -262143. -/
  earliest : -8334601228800 ≤ seconds
  /-- No timestamp lies after the year 262142. -/
  latest : seconds ≤ 8210266876799
  /-- The fraction ends with the leap second. -/
  nanos_lt : nanos < 2000000000
  deriving DecidableEq, Repr

namespace Timestamp

/-- The timestamp of a count of seconds and a fraction, if there is one.  Leap
seconds are counted at the end of a minute only. -/
def ofParts? (seconds : Int) (nanos : Nat) : Option Timestamp :=
  if valid : -8334601228800 ≤ seconds ∧ seconds ≤ 8210266876799 ∧
      nanos < 2000000000 ∧ (1000000000 ≤ nanos → seconds % 60 = 59) then
    some ⟨seconds, nanos, valid.1, valid.2.1, valid.2.2.1⟩
  else none

def isLeap (time : Timestamp) : Bool :=
  1000000000 ≤ time.nanos

/-- The timestamp without the fraction of its second. -/
def truncate (time : Timestamp) : Timestamp :=
  ⟨time.seconds, if 1000000000 ≤ time.nanos then 1000000000 else 0,
    time.earliest, time.latest, by split <;> omega⟩

/-- The number of the day that a timestamp lies in. -/
def dayNumber (time : Timestamp) : Int :=
  time.seconds / 86400

def date (time : Timestamp) : Date :=
  Date.ofDayNumber time.dayNumber

/-- The seconds of the day that have passed. -/
def secondOfDay (time : Timestamp) : Nat :=
  (time.seconds % 86400).toNat

def hour (time : Timestamp) : Nat :=
  time.secondOfDay / 3600

def minute (time : Timestamp) : Nat :=
  time.secondOfDay / 60 % 60

/-- The second of the minute, which counts a leap second: 60 at the end of a minute. -/
def second (time : Timestamp) : Nat :=
  time.secondOfDay % 60 + time.nanos / 1000000000

/-- A year with at least four digits, and with a sign unless it lies in the
years from 0 to 9999. -/
def yearDigits : Int → List Char
  | .ofNat year =>
      if year ≤ 9999 then Text.paddedDigits 4 year
      else '+' :: Text.paddedDigits 4 year
  | .negSucc year => '-' :: Text.paddedDigits 4 (year + 1)

def written (time : Timestamp) : List Char :=
  yearDigits time.date.year ++ '-' :: Text.paddedDigits 2 time.date.month ++
    '-' :: Text.paddedDigits 2 time.date.day ++
    'T' :: Text.paddedDigits 2 time.hour ++
    ':' :: Text.paddedDigits 2 time.minute ++
    ':' :: Text.paddedDigits 2 time.second ++ ['Z']

def render (time : Timestamp) : String :=
  String.ofList time.written

end Timestamp
end StatelessPgp
