import StatelessPgp.Text.Blank
import StatelessPgp.Time.Reading

/-!
# Layouts of a time in UTC

A layout is a row of fields and marks.  A field takes as many digits as it may,
after blank characters; only the year may have a sign, and with a sign it may
have any number of digits.  A text fits a layout if the row uses it up.
-/

namespace StatelessPgp
namespace Layout

open Text

/-- A part of a layout. -/
inductive Item where
  | year
  | month
  | day
  | hour
  | minute
  | second
  /-- This character and no other. -/
  | mark (character : Char)
  deriving DecidableEq, Repr

/-- The layout `YYYY-MM-DDThh:mm:ssZ`. -/
def extended : List Item :=
  [.year, .mark '-', .month, .mark '-', .day, .mark 'T', .hour, .mark ':',
    .minute, .mark ':', .second, .mark 'Z']

/-- The layout `YYYYMMDDThhmmssZ`. -/
def compact : List Item :=
  [.year, .month, .day, .mark 'T', .hour, .minute, .second, .mark 'Z']

/-- The layout `YYYY-MM-DDThh:mmZ`. -/
def withoutSeconds : List Item :=
  [.year, .mark '-', .month, .mark '-', .day, .mark 'T', .hour, .mark ':',
    .minute, .mark 'Z']

/-- The layouts in the order in which they are tried. -/
def all : List (List Item) :=
  [extended, compact, withoutSeconds]

/-- The longest run of digits at the start, of at most the given length if there
is one, and what follows it. -/
def digitRun (limit : Option Nat) (text : List Char) : List Char × List Char :=
  let run := text.takeWhile isDigit
  let taken := match limit with
    | some limit => run.take limit
    | none => run
  (taken, text.drop taken.length)

/-- Read a number of at least one digit. -/
def number? (limit : Option Nat) (text : List Char) :
    Option (Nat × List Char) :=
  match digitRun limit text with
  | ([], _) => none
  | (run, rest) => some (numberOfDigits run, rest)

def year? (text : List Char) : Option (Int × List Char) :=
  match text with
  | '-' :: rest =>
      (number? none rest).map fun (number, rest) => (-(number : Int), rest)
  | '+' :: rest =>
      (number? none rest).map fun (number, rest) => ((number : Int), rest)
  | _ => (number? (some 4) text).map fun (number, rest) => ((number : Int), rest)

/-- Read a field of at most two digits. -/
def pair? (text : List Char) : Option (Nat × List Char) :=
  number? (some 2) (trimStart text)

/-- Read one part of a layout. -/
def Item.read? (item : Item) (reading : Reading) (text : List Char) :
    Option (Reading × List Char) :=
  match item with
  | .year => (year? (trimStart text)).map fun (value, rest) =>
      ({ reading with year := value }, rest)
  | .month => (pair? text).map fun (value, rest) =>
      ({ reading with month := value }, rest)
  | .day => (pair? text).map fun (value, rest) =>
      ({ reading with day := value }, rest)
  | .hour => (pair? text).map fun (value, rest) =>
      ({ reading with hour := value }, rest)
  | .minute => (pair? text).map fun (value, rest) =>
      ({ reading with minute := value }, rest)
  | .second => (pair? text).map fun (value, rest) =>
      ({ reading with second := value }, rest)
  | .mark character =>
      match text with
      | [] => none
      | first :: rest => if first = character then some (reading, rest) else none

/-- Read a text that fits a layout from this part on. -/
def readFrom? : List Item → Reading → List Char → Option Reading
  | [], reading, text => if text.isEmpty then some reading else none
  | item :: items, reading, text =>
      match item.read? reading text with
      | none => none
      | some (reading, rest) => readFrom? items reading rest

/-- The timestamp of a text that fits a layout and names a time in it. -/
def timestamp? (layout : List Item) (text : List Char) : Option Timestamp :=
  match readFrom? layout {} text with
  | none => none
  | some reading => reading.timestamp? 0

/-- The timestamp in the first layout that gives one. -/
def firstTimestamp? (text : List Char) : Option Timestamp :=
  all.findSome? fun layout => timestamp? layout text

end Layout
end StatelessPgp
