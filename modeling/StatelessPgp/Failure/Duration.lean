import StatelessPgp.Text.Digits

/-!
# Durations

A duration is shown in the largest unit in which it is at least one, with as
many decimal places as it needs.
-/

namespace StatelessPgp

structure Duration where
  seconds : Nat
  /-- Billionths of a second. -/
  nanos : Nat
  nanos_lt : nanos < 1000000000 := by omega
  deriving DecidableEq, Repr

namespace Duration

/-- So many thousandths of a second. -/
def ofMillis (millis : Nat) : Duration :=
  ⟨millis / 1000, millis % 1000 * 1000000, by omega⟩

/-- So many seconds and billionths; whole seconds among the billionths are
carried over. -/
def ofParts (seconds nanos : Nat) : Duration :=
  ⟨seconds + nanos / 1000000000, nanos % 1000000000, by omega⟩

def ofSeconds (seconds : Nat) : Duration :=
  ⟨seconds, 0, by omega⟩

def millis (duration : Duration) : Nat :=
  duration.seconds * 1000 + duration.nanos / 1000000

/-- A decimal number of a whole part and a fraction of the given width, without
trailing zeros. -/
def decimal (whole places fraction : Nat) : List Char :=
  let places := ((Text.paddedDigits places fraction).reverse.dropWhile (· == '0')).reverse
  Text.digits whole ++ (if fraction = 0 then [] else '.' :: places)

/-- A duration with its unit. -/
def text (duration : Duration) : String :=
  let nanos := duration.nanos
  if 0 < duration.seconds then
    String.ofList (decimal duration.seconds 9 nanos) ++ "s"
  else if 1000000 ≤ nanos then
    String.ofList (decimal (nanos / 1000000) 6 (nanos % 1000000)) ++ "ms"
  else if 1000 ≤ nanos then
    String.ofList (decimal (nanos / 1000) 3 (nanos % 1000)) ++ "µs"
  else
    String.ofList (decimal nanos 1 0) ++ "ns"

end Duration
end StatelessPgp
