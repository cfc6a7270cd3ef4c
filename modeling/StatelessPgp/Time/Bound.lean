import StatelessPgp.Failure.Basic
import StatelessPgp.Time.Layout
import StatelessPgp.Time.Offset

/-!
# Reading times and bounds on times

A time is read in the layouts for UTC first and else as a time with an offset.
A bound on the time of a signature is such a time, or one of two words that the
backend interprets.
-/

namespace StatelessPgp

namespace Timestamp

/-- Read a written time. -/
def parse (text : String) : Except Failure Timestamp :=
  let trimmed := Text.trim text.toList
  match Layout.firstTimestamp? trimmed with
  | some time => .ok time
  | none =>
      match OffsetTime.timestamp trimmed with
      | .ok time => .ok time
      | .error defect =>
          .error (.because .badData
            ("Malformed UTC timestamp '" ++ String.ofList trimmed ++ "'")
            defect.message)

end Timestamp

/-- A bound on the time of a signature. -/
inductive TimeBound where
  /-- The time at which the backend looks at its clock. -/
  | now
  | unbounded
  /-- A fixed time. -/
  | fixed (time : Timestamp)
  deriving DecidableEq, Repr

namespace TimeBound

def render : TimeBound → String
  | .now => "now"
  | .unbounded => "-"
  | .fixed time => time.render

def parse (text : String) : Except Failure TimeBound :=
  let word := Text.strip text
  if word = "now" then .ok .now
  else if word = "-" then .ok .unbounded
  else (Timestamp.parse word).map .fixed

end TimeBound
end StatelessPgp
