import StatelessPgp.Json.Binary64
import StatelessPgp.Text.Digits

/-!
# Shortest decimal form of a double

Of all decimal numbers that are read back as a given double, those with the
fewest digits are taken, and of them the nearest to the double.  Numbers below
`10 ^ 16` and not too close to zero are written positionally, and the others with an
exponent.
-/

namespace StatelessPgp
namespace Binary64

/-- A decimal number, `digits * 10 ^ exponent`. -/
structure Scaled where
  digits : Nat
  exponent : Int
  deriving DecidableEq, Repr

/-- The exponent of the power of ten next above a positive fraction: the least
`p` with `numerator / denominator < 10 ^ p`. -/
def decimalExponent (numerator denominator : Nat) : Int :=
  if denominator ≤ numerator then
    ((Text.digits (numerator / denominator)).length : Int)
  else
    match (List.range 400).find? fun power =>
        decide (denominator ≤ numerator * Nat.pow 10 power) with
    | some power => 1 - (power : Int)
    | none => 0

/-- The double in quarters of its last place, and the ends of the interval that
is read back as it. -/
def quarters (number : Binary64) : Nat × Nat × Nat :=
  let value := 4 * number.mantissa
  let below := if number.mantissa = Nat.pow 2 52 ∧ leastExponent < number.exponent then 1 else 2
  (value, value - below, value + 2)

/-- The best number with the given power of ten in its last place, if one is
read back as the double. -/
def nearestOnGrid? (number : Binary64) (place : Int) : Option Scaled :=
  let (value, low, high) := number.quarters
  let (up, down) := powerOfTwo (number.exponent - 2)
  let unit := Nat.pow 10 place.toNat * down
  let quarter := Nat.pow 10 (-place).toNat * up
  let isEven := number.mantissa % 2 = 0
  let inside := fun candidate : Nat =>
    let size := candidate * unit
    if isEven then low * quarter ≤ size ∧ size ≤ high * quarter
    else low * quarter < size ∧ size < high * quarter
  let floor := value * quarter / unit
  let fromFloor := value * quarter - floor * unit
  let toCeiling := (floor + 1) * unit - value * quarter
  let floorFirst := fromFloor < toCeiling ∨ (fromFloor = toCeiling ∧ floor % 2 = 0)
  let candidates := if floorFirst then [floor, floor + 1] else [floor + 1, floor]
  (candidates.find? fun candidate => decide (inside candidate)).map (⟨·, place⟩)

/-- The shortest decimal number that is read back as a positive double. -/
def shortest (number : Binary64) : Scaled :=
  let top := decimalExponent number.fraction.1 number.fraction.2
  ((List.range 17).findSome? fun fewer : Nat =>
    nearestOnGrid? number (top - 1 - (fewer : Int))).getD ⟨0, 0⟩

/-- The digits of a decimal number without trailing zeros, and the power of ten
of the first of them. -/
def Scaled.significant (decimal : Scaled) : List Char × Int :=
  let run := Text.digits decimal.digits
  (((run.reverse.dropWhile (· == '0')).reverse),
    decimal.exponent + run.length - 1)

/-- The exponent part of a number, with its sign. -/
def exponentText (exponent : Int) : List Char :=
  (if exponent < 0 then '-' else '+') :: Text.digits exponent.natAbs

/-- Significant digits, the first of which stands for the given power of ten,
written as a number with a decimal point or an exponent. -/
def layOut (run : List Char) (power : Int) : List Char :=
  if 0 ≤ power ∧ power < 16 then
    let whole := power.toNat + 1
    let places := run.drop whole
    run.take whole ++ List.replicate (whole - run.length) '0' ++
      '.' :: (if places.isEmpty then ['0'] else places)
  else if -5 ≤ power ∧ power < 0 then
    '0' :: '.' :: List.replicate ((-power).toNat - 1) '0' ++ run
  else
    let places := run.drop 1
    run.take 1 ++ (if places.isEmpty then [] else '.' :: places) ++
      'e' :: exponentText power

/-- The shortest text of a double. -/
def written (number : Binary64) : List Char :=
  let size :=
    if number.isZero then "0.0".toList
    else
      let (run, power) := number.shortest.significant
      layOut run power
  if number.negative then '-' :: size else size

end Binary64
end StatelessPgp
