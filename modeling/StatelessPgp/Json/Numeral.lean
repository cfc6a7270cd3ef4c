import StatelessPgp.Json.Binary64
import StatelessPgp.Text.Digits

/-!
# Numerals

A numeral has a whole part without superfluous zeros, and may have decimal
places and an exponent.  Without either it denotes an integer if that fits 64
bits.  Every other numeral denotes a double, found from the digits that fit 64
bits and the power of ten of the last of them.
-/

namespace StatelessPgp
namespace Json

/-- A number as it is written. -/
structure Numeral where
  /-- Whether there is a minus sign. -/
  negative : Bool
  whole : List Char
  /-- The digits after the point, if there is one. -/
  places : Option (List Char)
  /-- Whether the exponent is negative, and its digits, if there is one. -/
  exponent : Option (Bool × List Char)
  deriving DecidableEq, Repr

/-- What a numeral denotes. -/
inductive Number where
  | integer (value : Int)
  | double (value : Binary64)
  deriving DecidableEq, Repr

namespace Numeral

open Text

/-- The characters of an exponent. -/
def exponentCharacters : Option (Bool × List Char) → List Char
  | none => []
  | some (negative, run) => 'e' :: (if negative then '-' :: run else run)

def characters (numeral : Numeral) : List Char :=
  (if numeral.negative then ['-'] else []) ++ numeral.whole ++
    (match numeral.places with
      | none => []
      | some run => '.' :: run) ++
    exponentCharacters numeral.exponent

def ofInteger (value : Int) : Numeral :=
  ⟨decide (value < 0), digits value.natAbs, none, none⟩

/-- Read an exponent that takes up the whole text. -/
def readExponent? (text : List Char) : Option (Option (Bool × List Char)) :=
  match text with
  | [] => some none
  | mark :: rest =>
      let (negative, run) := match rest with
        | '-' :: run => (true, run)
        | '+' :: run => (false, run)
        | run => (false, run)
      if (mark = 'e' ∨ mark = 'E') ∧ !run.isEmpty ∧ run.all isDigit then
        some (some (negative, run))
      else none

/-- Read decimal places and what follows them. -/
def readPlaces? (text : List Char) : Option (Option (List Char) × List Char) :=
  match text with
  | '.' :: rest =>
      let run := rest.takeWhile isDigit
      if run.isEmpty then none else some (some run, rest.drop run.length)
  | _ => some (none, text)

/-- Read a text that is a numeral. -/
def ofCharacters? (text : List Char) : Option Numeral := do
  let (negative, rest) := match text with
    | '-' :: rest => (true, rest)
    | _ => (false, text)
  let whole := rest.takeWhile isDigit
  if whole.isEmpty || (whole.head? == some '0' && 1 < whole.length) then none
  else
    let (places, rest) ← readPlaces? (rest.drop whole.length)
    let exponent ← readExponent? rest
    return ⟨negative, whole, places, exponent⟩

/-- The first number that does not fit 64 bits. -/
def wordBound : Nat := Nat.pow 2 64

/-- Append digits to a number while it fits 64 bits; the rest is left over. -/
def absorb (number : Nat) : List Char → Nat × List Char
  | [] => (number, [])
  | digit :: rest =>
      let next := number * 10 + digitValue digit
      if next < wordBound then absorb next rest else (number, digit :: rest)

/-- Whether a numeral has neither decimal places nor an exponent. -/
def isWhole (numeral : Numeral) : Bool :=
  numeral.places.isNone && numeral.exponent.isNone

/-- Apply a sign to a double. -/
def signed (negative : Bool) (number : Binary64) : Binary64 :=
  { number with negative }

/-- The greatest number that fits 31 bits. -/
def greatestExponent : Int := 2147483647

/-- Keep a number within 32 bits with a sign. -/
def saturate (number : Int) : Int :=
  max (-2147483648) (min greatestExponent number)

/-- The double that digits and an exponent denote.  An exponent beyond 31 bits
makes it too large or zero. -/
def scaled? (significand : Nat) (power : Int) :
    Option (Bool × List Char) → Option Binary64
  | none => Binary64.ofScaled? significand power
  | some (negative, run) =>
      let exponent : Int := numberOfDigits run
      if greatestExponent < exponent then
        if significand ≠ 0 ∧ !negative then none else some (Binary64.zero false)
      else
        Binary64.ofScaled? significand
          (saturate (if negative then power - exponent else power + exponent))

/-- What a numeral denotes, or nothing if it is too large for a double. -/
def value? (numeral : Numeral) : Option Number :=
  let (whole, beyond) := absorb 0 numeral.whole
  let isInteger := numeral.isWhole && beyond.isEmpty &&
    (!numeral.negative || (whole != 0 && whole ≤ Nat.pow 2 63))
  if isInteger then
    some (.integer (if numeral.negative then -(whole : Int) else whole))
  else
    let places := numeral.places.getD []
    let (significand, unread) := absorb whole places
    let power : Int := (beyond.length : Int) - (places.length - unread.length : Nat)
    (scaled? significand power numeral.exponent).map fun number =>
      .double (signed numeral.negative number)

end Numeral
end Json
end StatelessPgp
