/-!
# Decimal digits

Numbers are written in base ten, some of them padded with zeros, and read from
runs of the ASCII digits.
-/

namespace StatelessPgp
namespace Text

def digits (number : Nat) : List Char :=
  Nat.toDigits 10 number

/-- Different numbers have different digits. -/
theorem digits_inj {first second : Nat} (same : digits first = digits second) :
    first = second := by
  have read : Nat.ofDigitChars 10 (digits first) 0 =
      Nat.ofDigitChars 10 (digits second) 0 := by rw [same]
  simpa only [digits, Nat.ofDigitChars_ten_toDigits] using read

theorem underscore_not_mem_digits (number : Nat) : '_' ∉ digits number :=
  Nat.underscore_not_in_toDigits

/-- The decimal digits of a number, with zeros in front up to the width. -/
def paddedDigits (width number : Nat) : List Char :=
  List.leftpad width '0' (digits number)

def isDigit (character : Char) : Bool :=
  '0' ≤ character && character ≤ '9'

def digitValue (character : Char) : Nat :=
  character.toNat - '0'.toNat

/-- The number that a run of digits denotes. -/
def numberOfDigits (run : List Char) : Nat :=
  run.foldl (fun number digit => number * 10 + digitValue digit) 0

/-- Read a nonempty text of digits with an optional plus sign as a number
below the bound. -/
def readBounded? (bound : Nat) (text : List Char) : Option Nat :=
  let run := match text with
    | '+' :: rest => rest
    | _ => text
  if run.isEmpty || !run.all isDigit then none
  else
    let number := numberOfDigits run
    if number < bound then some number else none

def integerDigits : Int → List Char
  | .ofNat number => digits number
  | .negSucc number => '-' :: digits (number + 1)

def integerText (number : Int) : String :=
  String.ofList (integerDigits number)

end Text
end StatelessPgp
