import Mathlib.Data.List.Induction
import Mathlib.Tactic.IntervalCases
import StatelessPgp.Proofs.Text.Digits
import StatelessPgp.Text.Hex

/-!
# Numbers and bytes as digits

What digits stand for, said without reading them: a decimal digit has its place in a row of ten, a
hexadecimal digit in one of two rows of sixteen, a number grows by one digit at its end, and bytes
are pairs of digits.  The readers of digits find just that, and what they have read is written with
the fewest decimal digits and with hexadecimal digits in upper case.
-/

namespace StatelessPgp

namespace Text

/-- The decimal digits in the order of their values. -/
def decimalRow : List Char := "0123456789".toList

/-- The hexadecimal digits in upper case, in the order of their values. -/
def upperRow : List Char := "0123456789ABCDEF".toList

/-- The hexadecimal digits in lower case, in the order of their values. -/
def lowerRow : List Char := "0123456789abcdef".toList

/-- A character is the decimal digit of a value. -/
def IsDecimalDigit (character : Char) (value : Nat) : Prop :=
  decimalRow[value]? = some character

/-- A character is the hexadecimal digit of a value, in upper or in lower case. -/
def IsHexDigit (character : Char) (value : Nat) : Prop :=
  upperRow[value]? = some character ∨ lowerRow[value]? = some character

/-- A run of decimal digits spells a number. -/
inductive SpellsNumber : List Char → Nat → Prop where
  | nil : SpellsNumber [] 0
  | concat {run : List Char} {number value : Nat} {digit : Char}
      (front : SpellsNumber run number) (last : IsDecimalDigit digit value) :
      SpellsNumber (run ++ [digit]) (number * 10 + value)

/-- A run of hexadecimal digits, two for each byte, spells bytes. -/
inductive SpellsBytes : List Char → Bytes → Prop where
  | nil : SpellsBytes [] []
  | cons {high low : Char} {upper lower : Nat} {run : List Char} {bytes : Bytes}
      (first : IsHexDigit high upper) (second : IsHexDigit low lower)
      (rest : SpellsBytes run bytes) :
      SpellsBytes (high :: low :: run) (UInt8.ofNat (upper * 16 + lower) :: bytes)

variable {character : Char} {value number : Nat} {run : List Char} {bytes : Bytes}

theorem IsDecimalDigit.lt (digit : IsDecimalDigit character value) : value < 10 :=
  (List.getElem?_eq_some_iff.1 digit).1

theorem IsHexDigit.lt (digit : IsHexDigit character value) : value < 16 := by
  rcases digit with upper | lower
  · exact (List.getElem?_eq_some_iff.1 upper).1
  · exact (List.getElem?_eq_some_iff.1 lower).1

theorem isDecimalDigit_iff :
    IsDecimalDigit character value ↔
      isDigit character = true ∧ digitValue character = value := by
  constructor
  · intro digit
    have small := digit.lt
    rw [IsDecimalDigit] at digit
    interval_cases value <;> cases digit <;> decide
  · rintro ⟨digit, rfl⟩
    rw [isDigit, Bool.and_eq_true, decide_eq_true_eq, decide_eq_true_eq] at digit
    have least : 48 ≤ character.toNat := digit.1
    have greatest : character.toNat ≤ 57 := digit.2
    rw [IsDecimalDigit, digitValue, ← Char.ofNat_toNat character]
    interval_cases character.toNat <;> rfl

theorem hexValue?_eq_some_iff : hexValue? character = some value ↔ IsHexDigit character value := by
  constructor
  · intro read
    rw [IsHexDigit, ← Char.ofNat_toNat character]
    rw [hexValue?] at read
    split at read
    · next range =>
        have least : 48 ≤ character.toNat := range.1
        have greatest : character.toNat ≤ 57 := range.2
        cases read
        interval_cases character.toNat <;> exact .inl rfl
    · split at read
      · next range =>
          have least : 65 ≤ character.toNat := range.1
          have greatest : character.toNat ≤ 70 := range.2
          cases read
          interval_cases character.toNat <;> exact .inl rfl
      · split at read
        · next range =>
            have least : 97 ≤ character.toNat := range.1
            have greatest : character.toNat ≤ 102 := range.2
            cases read
            interval_cases character.toNat <;> exact .inr rfl
        · cases read
  · intro digit
    have small := digit.lt
    rcases digit with upper | lower
    · interval_cases value <;> cases upper <;> rfl
    · interval_cases value <;> cases lower <;> rfl

/-- A digit that has been read is written in upper case. -/
theorem IsHexDigit.hexDigit_eq (digit : IsHexDigit character value) :
    hexDigit value = character.toUpper := by
  have small := digit.lt
  rcases digit with upper | lower
  · interval_cases value <;> cases upper <;> rfl
  · interval_cases value <;> cases lower <;> rfl

theorem numberOfDigits_concat (run : List Char) (digit : Char) :
    numberOfDigits (run ++ [digit]) = numberOfDigits run * 10 + digitValue digit := by
  rw [numberOfDigits, List.foldl_append]
  rfl

theorem spellsNumber_iff :
    SpellsNumber run number ↔
      (∀ character ∈ run, isDigit character = true) ∧ numberOfDigits run = number := by
  constructor
  · intro spells
    induction spells with
    | nil => exact ⟨nofun, rfl⟩
    | @concat run number value digit front last hypothesis =>
        obtain ⟨digits, rfl⟩ := hypothesis
        obtain ⟨isDigit, rfl⟩ := isDecimalDigit_iff.1 last
        refine ⟨?_, numberOfDigits_concat run digit⟩
        intro character member
        rcases List.mem_append.1 member with earlier | same
        · exact digits character earlier
        · rwa [List.mem_singleton.1 same]
  · rintro ⟨digits, rfl⟩
    induction run using List.reverseRecOn with
    | nil => exact .nil
    | append_singleton run digit hypothesis =>
        rw [numberOfDigits_concat]
        exact .concat (hypothesis fun character member => digits character (by simp [member]))
          (isDecimalDigit_iff.2 ⟨digits digit (by simp), rfl⟩)

theorem SpellsNumber.isDigit_of_mem (spells : SpellsNumber run number)
    (member : character ∈ run) : isDigit character = true :=
  (spellsNumber_iff.1 spells).1 character member

theorem unhex?_eq_some_iff : unhex? run = some bytes ↔ SpellsBytes run bytes := by
  constructor
  · intro read
    fun_induction unhex? run generalizing bytes with
    | case1 =>
        cases read
        exact .nil
    | case2 => cases read
    | case3 high low rest upper lower others othersRead lowerRead upperRead hypothesis =>
        cases read
        exact .cons (hexValue?_eq_some_iff.1 upperRead) (hexValue?_eq_some_iff.1 lowerRead)
          (hypothesis othersRead)
    | case4 => cases read
  · intro spells
    induction spells with
    | nil => rfl
    | cons first second rest hypothesis =>
        rw [unhex?, hexValue?_eq_some_iff.2 first, hexValue?_eq_some_iff.2 second, hypothesis]

namespace SpellsBytes

theorem length_eq (spells : SpellsBytes run bytes) : run.length = 2 * bytes.length := by
  induction spells with
  | nil => rfl
  | cons _ _ _ hypothesis => simp [hypothesis, Nat.mul_succ]

theorem eq_nil_iff (spells : SpellsBytes run bytes) : run = [] ↔ bytes = [] := by
  cases spells <;> simp

/-- Bytes that have been read are written with the same digits in upper case. -/
theorem hex_eq (spells : SpellsBytes run bytes) : hex bytes = run.map Char.toUpper := by
  induction spells with
  | nil => rfl
  | @cons high low upper lower run bytes first second _ hypothesis =>
      have small := first.lt
      have below := second.lt
      have value : (UInt8.ofNat (upper * 16 + lower)).toNat = upper * 16 + lower :=
        UInt8.toNat_ofNat_of_lt' (by change upper * 16 + lower < 256; omega)
      have front : (upper * 16 + lower) / 16 = upper := by omega
      have back : (upper * 16 + lower) % 16 = lower := by omega
      rw [hex, List.flatMap_cons, ← hex, value, front, back, first.hexDigit_eq,
        second.hexDigit_eq, hypothesis]
      rfl

end SpellsBytes

/-- A run of digits without the zeros in front that do not count. -/
def withoutZeros : List Char → List Char
  | [] => []
  | [digit] => [digit]
  | first :: second :: rest =>
      if first = '0' then withoutZeros (second :: rest) else first :: second :: rest

theorem digits_of_lt {digit : Char} (isDigit : IsDecimalDigit digit value) :
    digits value = [digit] := by
  have small := isDigit.lt
  interval_cases value <;> cases isDigit <;> rfl

/-- Digits that begin with none that does not count are those of their number. -/
theorem digits_numberOfDigits (all : ∀ character ∈ run, isDigit character = true)
    (filled : run ≠ []) (sparing : run.head? = some '0' → run.length = 1) :
    digits (numberOfDigits run) = run := by
  induction run using List.reverseRecOn with
  | nil => exact absurd rfl filled
  | append_singleton run digit hypothesis =>
      have last : IsDecimalDigit digit (digitValue digit) :=
        isDecimalDigit_iff.2 ⟨all digit (by simp), rfl⟩
      rw [numberOfDigits_concat]
      cases run with
      | nil =>
          rw [numberOfDigits, List.foldl_nil, Nat.zero_mul, Nat.zero_add]
          exact digits_of_lt last
      | cons first rest =>
          have front : ∀ character ∈ first :: rest, isDigit character = true :=
            fun character member => all character (List.mem_append_left _ member)
          have counts : first ≠ '0' := by
            rintro rfl
            simpa using sparing rfl
          have written := hypothesis front (List.cons_ne_nil first rest)
            fun zero => absurd (Option.some.inj zero) counts
          have positive : numberOfDigits (first :: rest) ≠ 0 := by
            intro zero
            rw [zero] at written
            cases written
            exact counts rfl
          have grown := Nat.toDigits_append_toDigits (b := 10) (by decide)
            (Nat.pos_of_ne_zero positive) last.lt
          calc digits (numberOfDigits (first :: rest) * 10 + digitValue digit)
              = digits (numberOfDigits (first :: rest)) ++ digits (digitValue digit) := by
                rw [Nat.mul_comm]
                exact grown.symm
            _ = first :: rest ++ [digit] := by rw [written, digits_of_lt last]

theorem numberOfDigits_zero_cons (rest : List Char) :
    numberOfDigits ('0' :: rest) = numberOfDigits rest := rfl

/-- A number that has been read is written without the zeros that do not count. -/
theorem SpellsNumber.digits_eq (spells : SpellsNumber run number) (filled : run ≠ []) :
    digits number = withoutZeros run := by
  obtain ⟨all, rfl⟩ := spellsNumber_iff.1 spells
  clear spells
  fun_induction withoutZeros run with
  | case1 => exact absurd rfl filled
  | case2 digit => exact digits_numberOfDigits all nofun fun _ => rfl
  | case3 second rest hypothesis =>
      rw [numberOfDigits_zero_cons]
      exact hypothesis nofun (List.forall_mem_cons.1 all).2
  | case4 first second rest counts =>
      exact digits_numberOfDigits all nofun fun zero => absurd (Option.some.inj zero) counts

end Text
end StatelessPgp
