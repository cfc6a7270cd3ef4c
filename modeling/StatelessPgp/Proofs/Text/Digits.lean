import Mathlib.Tactic.IntervalCases
import StatelessPgp.Text.Blank
import StatelessPgp.Text.Digits

/-!
# Reading written digits

The digits of a number denote that number again, with or without zeros in front.
-/

namespace StatelessPgp

namespace Text

theorem isBlank_of_isDigit {character : Char} (digit : isDigit character = true) :
    isBlank character = false := by
  rw [isDigit, Bool.and_eq_true, decide_eq_true_eq, decide_eq_true_eq] at digit
  have least : 48 ≤ character.toNat := digit.1
  have greatest : character.toNat ≤ 57 := digit.2
  simp [isBlank, inRanges, blankRanges]
  omega

theorem isDigit_of_mem_digits {number : Nat} {character : Char}
    (member : character ∈ digits number) : isDigit character = true :=
  Nat.isDigit_of_mem_toDigits (by decide) (by decide) member

theorem numberOfDigits_digits (number : Nat) : numberOfDigits (digits number) = number := by
  have read : Nat.ofDigitChars 10 (digits number) 0 = number := Nat.ofDigitChars_ten_toDigits
  rw [Nat.ofDigitChars_eq_foldl] at read
  have step : (fun (number : Nat) digit => number * 10 + digitValue digit) =
      fun number digit => 10 * number + (digit.toNat - '0'.toNat) := by
    funext number digit
    rw [Nat.mul_comm]
    rfl
  rw [numberOfDigits, step]
  exact read

theorem digits_ne_nil (number : Nat) : digits number ≠ [] :=
  Nat.toDigits_ne_nil

/-- The digits of a number do not begin with a superfluous zero. -/
theorem head?_digits_ne_zero {number : Nat} (positive : 0 < number) :
    (digits number).head? ≠ some '0' := by
  induction number using Nat.strongRecOn with
  | ind number hypothesis =>
      by_cases small : number < 10
      · rw [digits, Nat.toDigits_of_lt_base small]
        interval_cases number <;> decide
      · have grown : digits number = digits (number / 10) ++ [(number % 10).digitChar] :=
          Nat.toDigits_of_base_le (by decide) (by omega)
        have sparing := hypothesis (number / 10) (by omega) (by omega)
        obtain ⟨first, rest, split⟩ := List.exists_cons_of_ne_nil (digits_ne_nil (number / 10))
        rw [split] at sparing
        rw [grown, split]
        exact sparing

theorem isDigit_of_mem_paddedDigits {width number : Nat} {character : Char}
    (member : character ∈ paddedDigits width number) : isDigit character = true := by
  rcases List.mem_append.1 member with zero | digit
  · rw [(List.mem_replicate.1 zero).2]
    rfl
  · exact isDigit_of_mem_digits digit

theorem numberOfDigits_paddedDigits (width number : Nat) :
    numberOfDigits (paddedDigits width number) = number := by
  have zeros (count : Nat) : numberOfDigits (List.replicate count '0') = 0 := by
    induction count with
    | zero => rfl
    | succ count hypothesis =>
        rw [List.replicate_succ]
        exact hypothesis
  calc numberOfDigits (paddedDigits width number)
      = (digits number).foldl (fun number digit => number * 10 + digitValue digit)
          (numberOfDigits (List.replicate (width - (digits number).length) '0')) :=
        List.foldl_append
    _ = numberOfDigits (digits number) := by rw [zeros]; rfl
    _ = number := numberOfDigits_digits number

theorem paddedDigits_ne_nil (width number : Nat) : paddedDigits width number ≠ [] := by
  intro empty
  exact digits_ne_nil number (List.append_eq_nil_iff.1 empty).2

theorem length_paddedDigits {width number : Nat} (positive : 0 < width)
    (bounded : number < Nat.pow 10 width) : (paddedDigits width number).length = width := by
  have short : (digits number).length ≤ width :=
    (Nat.length_toDigits_le_iff (by decide) positive).2 bounded
  rw [paddedDigits, List.leftpad, List.length_append, List.length_replicate]
  omega

end Text

end StatelessPgp
