import StatelessPgp.Time.Reading

/-!
# Times with an offset

The form `YYYY-MM-DDThh:mm:ss[.fraction]±hh:mm`, or with `Z` for no offset.
The fields have fixed widths.  A text has to be long enough for a date and a time
of day before anything in it is looked at.  The date is read as a whole before it is looked up
in the calendar, then the time of day, then the offset; the first of them that is
wrong says what is wrong with it.
-/

namespace StatelessPgp
namespace OffsetTime

open Text

/-- What can be wrong with a written time. -/
inductive Defect where
  /-- A field names no value that it may have. -/
  | outOfRange
  /-- A character does not belong where it stands. -/
  | invalid
  /-- The text ends within the form. -/
  | tooShort
  /-- The text goes on after the form. -/
  | tooLong
  deriving DecidableEq, Repr

def Defect.message : Defect → String
  | .outOfRange => "input is out of range"
  | .invalid => "input contains invalid characters"
  | .tooShort => "premature end of input"
  | .tooLong => "trailing input"

def byteLength (text : List Char) : Nat :=
  (String.ofList text).utf8ByteSize

/-- Read exactly so many digits.  A text with fewer bytes than that is too
short, whatever it holds. -/
def fixedNumber (width : Nat) (text : List Char) :
    Except Defect (Nat × List Char) :=
  let run := text.take width
  if byteLength text < width then .error .tooShort
  else if run.all isDigit then .ok (numberOfDigits run, text.drop width)
  else .error .invalid

/-- Read one of the characters that satisfy the test. -/
def expect (accepts : Char → Bool) : List Char → Except Defect (List Char)
  | [] => .error .tooShort
  | first :: rest => if accepts first then .ok rest else .error .invalid

/-- Read a fraction of a second in billionths.  Digits after the ninth are
passed over. -/
def fraction (text : List Char) : Except Defect (Nat × List Char) :=
  match text with
  | '.' :: rest =>
      let run := rest.takeWhile isDigit
      if rest.isEmpty then .error .tooShort
      else if run.isEmpty then .error .invalid
      else
        let kept := run.take 9
        .ok (numberOfDigits kept * Nat.pow 10 (9 - kept.length), rest.drop run.length)
  | _ => .ok (0, text)

/-- Read two digits of an offset. -/
def offsetNumber (text : List Char) : Except Defect (Nat × List Char) :=
  fixedNumber 2 text

def offsetMinutes (text : List Char) : Except Defect (Nat × List Char) := do
  let (value, rest) ← offsetNumber text
  if value ≤ 59 then return (value, rest) else throw .outOfRange

/-- Read an offset in seconds after its sign. -/
def unsignedOffset (text : List Char) : Except Defect (Nat × List Char) := do
  let (hours, rest) ← offsetNumber text
  let rest ← expect (· == ':') rest
  let (minutes, rest) ← offsetMinutes rest
  return (hours * 3600 + minutes * 60, rest)

/-- Read an offset in seconds. -/
def offset (text : List Char) : Except Defect (Int × List Char) :=
  match text with
  | [] => .error .tooShort
  | first :: rest =>
      if first = 'Z' ∨ first = 'z' then .ok (0, rest)
      else if first = '+' then
        (unsignedOffset rest).map fun (seconds, rest) => ((seconds : Int), rest)
      else if first = '-' ∨ first = '\u2212' then
        (unsignedOffset rest).map fun (seconds, rest) => (-(seconds : Int), rest)
      else .error .invalid

/-- The greatest offset, 23 hours and 59 minutes. -/
def greatestOffset : Int :=
  86340

/-- Read a date.  It has to be one of the calendar. -/
def date (text : List Char) : Except Defect (Date × List Char) := do
  let (year, rest) ← fixedNumber 4 text
  let rest ← expect (· == '-') rest
  let (month, rest) ← fixedNumber 2 rest
  let rest ← expect (· == '-') rest
  let (day, rest) ← fixedNumber 2 rest
  let date : Date := ⟨year, month, day⟩
  if date.isValid then return (date, rest) else throw .outOfRange

/-- Read a time of day on a date.  It has to be one of some day. -/
def timeOfDay (date : Date) (text : List Char) :
    Except Defect (Reading × List Char) := do
  let (hour, rest) ← fixedNumber 2 text
  let rest ← expect (· == ':') rest
  let (minute, rest) ← fixedNumber 2 rest
  let rest ← expect (· == ':') rest
  let (second, rest) ← fixedNumber 2 rest
  let (nanos, rest) ← fraction rest
  let reading : Reading :=
    { year := date.year, month := date.month, day := date.day
      hour, minute, second, nanos }
  if reading.isValid then return (reading, rest) else throw .outOfRange

/-- The length of a date and a time of day without a fraction. -/
def shortestLength : Nat := 19

/-- Read a date and a time of day.  A text that cannot hold both is too short,
whatever it holds. -/
def reading (text : List Char) : Except Defect (Reading × List Char) := do
  if byteLength text < shortestLength then throw .tooShort
  let (date, rest) ← date text
  let rest ← expect (fun mark => mark == 'T' || mark == 't' || mark == ' ') rest
  timeOfDay date rest

/-- Read a whole text as a time with an offset.  How far the offset goes is
looked at last. -/
def timestamp (text : List Char) : Except Defect Timestamp := do
  let (reading, rest) ← reading text
  let (offset, rest) ← offset rest
  if !rest.isEmpty then throw .tooLong
  if offset < -greatestOffset ∨ greatestOffset < offset then throw .outOfRange
  match reading.timestamp? offset with
  | some time => return time
  | none => throw .outOfRange

end OffsetTime
end StatelessPgp
