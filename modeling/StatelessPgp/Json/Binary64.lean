/-!
# Double precision numbers

A finite double is a sign and a mantissa of at most 53 bits times a power of
two.  All arithmetic is done on exact fractions of natural numbers and rounded
once, to the nearest double and to an even mantissa between two.
-/

namespace StatelessPgp

/-- A finite double, `mantissa * 2 ^ exponent` with a sign. -/
structure Binary64 where
  /-- Whether the number has a minus sign; zero may have one. -/
  negative : Bool
  /-- The mantissa, below `2 ^ 53`. -/
  mantissa : Nat
  /-- The exponent, at least -1074.  It is the least one that allows the number
  a mantissa below `2 ^ 53`. -/
  exponent : Int
  deriving DecidableEq, Repr

namespace Binary64

def leastExponent : Int := -1074

def greatestExponent : Int := 971

def zero (negative : Bool) : Binary64 :=
  ⟨negative, 0, leastExponent⟩

def isZero (number : Binary64) : Bool :=
  number.mantissa == 0

def powerOfTwo (exponent : Int) : Nat × Nat :=
  (Nat.pow 2 exponent.toNat, Nat.pow 2 (-exponent).toNat)

/-- A quotient rounded to the nearest natural number, to an even one between
two. -/
def roundQuotient (numerator denominator : Nat) : Nat :=
  let quotient := numerator / denominator
  let twice := 2 * (numerator % denominator)
  if twice < denominator ∨ (twice = denominator ∧ quotient % 2 = 0) then quotient
  else quotient + 1

/-- The exponent that a positive fraction has as a double. -/
def exponentOf (numerator denominator : Nat) : Int :=
  let estimate : Int := (Nat.log2 numerator : Int) - Nat.log2 denominator - 53
  let (up, down) := powerOfTwo estimate
  let exponent :=
    if denominator * up * Nat.pow 2 53 ≤ numerator * down then estimate + 1 else estimate
  max leastExponent exponent

/-- The double nearest to a fraction without sign, or nothing if the fraction is
too large. -/
def ofFraction? (numerator denominator : Nat) : Option Binary64 :=
  if numerator = 0 then some (zero false)
  else
    let exponent := exponentOf numerator denominator
    let (up, down) := powerOfTwo exponent
    let mantissa := roundQuotient (numerator * down) (denominator * up)
    let (mantissa, exponent) :=
      if mantissa = Nat.pow 2 53 then (Nat.pow 2 52, exponent + 1) else (mantissa, exponent)
    if greatestExponent < exponent then none else some ⟨false, mantissa, exponent⟩

/-- The size of a number as a fraction. -/
def fraction (number : Binary64) : Nat × Nat :=
  let (up, down) := powerOfTwo number.exponent
  (number.mantissa * up, down)

/-- The rounded product of the sizes of two numbers. -/
def times? (left right : Binary64) : Option Binary64 :=
  ofFraction? (left.fraction.1 * right.fraction.1) (left.fraction.2 * right.fraction.2)

/-- The rounded quotient of the sizes of two numbers, and zero if it is too
large. -/
def quotient (left right : Binary64) : Binary64 :=
  (ofFraction? (left.fraction.1 * right.fraction.2)
    (left.fraction.2 * right.fraction.1)).getD (zero false)

/-- The double nearest to a power of ten up to 308. -/
def powerOfTen (exponent : Nat) : Binary64 :=
  (ofFraction? (Nat.pow 10 exponent) 1).getD (zero false)

/-- Divide by a power of ten, in steps of at most 308 powers. -/
def divideByTen (number : Binary64) (power : Nat) : Binary64 :=
  if power ≤ 308 then number.quotient (powerOfTen power)
  else if number.isZero then number
  else divideByTen (number.quotient (powerOfTen 308)) (power - 308)
  termination_by power

/-- A natural number times a power of ten: the number and the power are rounded
to doubles first, and their product or quotient after that.  Nothing if the
result is too large. -/
def ofScaled? (significand : Nat) (exponent : Int) : Option Binary64 := do
  let number ← ofFraction? significand 1
  match exponent with
  | .ofNat power =>
      if power ≤ 308 then number.times? (powerOfTen power)
      else if number.isZero then some number
      else none
  | .negSucc power => some (divideByTen number (power + 1))

end Binary64
end StatelessPgp
