import Mathlib.Data.List.TakeWhile
import StatelessPgp.Json.Numeral
import StatelessPgp.Proofs.Text.Digits

/-!
# Integers in documents

The numeral of an integer is read back from its characters, and it denotes the integer as long
as that fits 64 bits, with a sign or without.
-/

namespace StatelessPgp

open Text

namespace Json

namespace Numeral

variable {number : Nat} {run : List Char}

theorem le_foldl_digits (run : List Char) (number : Nat) :
    number ≤ run.foldl (fun number digit => number * 10 + digitValue digit) number := by
  induction run generalizing number with
  | nil => exact Nat.le_refl number
  | cons digit rest hypothesis =>
      exact Nat.le_trans (by omega) (hypothesis (number * 10 + digitValue digit))

/-- Digits are taken in up to the last as long as the number stays below the bound, for it only
grows. -/
theorem absorb_eq
    (bounded : run.foldl (fun number digit => number * 10 + digitValue digit) number <
      wordBound) :
    absorb number run =
      (run.foldl (fun number digit => number * 10 + digitValue digit) number, []) := by
  induction run generalizing number with
  | nil => rfl
  | cons digit rest hypothesis =>
      have next : number * 10 + digitValue digit < wordBound :=
        Nat.lt_of_le_of_lt (le_foldl_digits rest _) bounded
      rw [absorb, if_pos next]
      exact hypothesis bounded

theorem absorb_digits (bounded : number < wordBound) : absorb 0 (digits number) = (number, []) := by
  have denoted := numberOfDigits_digits number
  rw [numberOfDigits] at denoted
  rw [absorb_eq (by rwa [denoted]), denoted]

theorem value?_ofInteger {value : Int} (least : -2 ^ 63 ≤ value) (bound : value < 2 ^ 64) :
    (ofInteger value).value? = some (.integer value) := by
  have bounded : value.natAbs < wordBound := by
    have words : wordBound = 2 ^ 64 := rfl
    omega
  rw [value?, ofInteger]
  dsimp only
  rw [absorb_digits bounded]
  by_cases negative : value < 0
  · have fits : value.natAbs ≠ 0 ∧ value.natAbs ≤ Nat.pow 2 63 := by
      have power : Nat.pow 2 63 = 2 ^ 63 := rfl
      omega
    have opposite : -|value| = value := by rw [abs_of_neg negative, neg_neg]
    simp [isWhole, negative, fits, opposite]
  · have same : |value| = value := abs_of_nonneg (not_lt.1 negative)
    simp [isWhole, negative, same]

/-- A sign and digits without a superfluous zero are a numeral. -/
theorem ofCharacters?_digits (negative : Bool) (number : Nat) :
    ofCharacters? ((if negative then ['-'] else []) ++ digits number) =
      some ⟨negative, digits number, none, none⟩ := by
  have filled := digits_ne_nil number
  have allDigits : ∀ character ∈ digits number, isDigit character = true :=
    fun _ => isDigit_of_mem_digits
  have sparing : ¬ ((digits number).head? = some '0' ∧ 1 < (digits number).length) := by
    rintro ⟨zero, long⟩
    rcases Nat.eq_zero_or_pos number with rfl | positive
    · exact absurd long (by decide)
    · exact head?_digits_ne_zero positive zero
  obtain ⟨first, rest, split⟩ := List.exists_cons_of_ne_nil filled
  have unsigned : first ≠ '-' := by
    rintro rfl
    cases allDigits '-' (split ▸ .head rest)
  have taken : (digits number).takeWhile isDigit = digits number :=
    List.takeWhile_eq_self_iff.2 allDigits
  have accepted : ((digits number).isEmpty ||
      ((digits number).head? == some '0' && decide (1 < (digits number).length))) ≠ true := by
    simpa [filled] using sparing
  cases negative with
  | true =>
      rw [if_pos rfl, List.singleton_append, ofCharacters?]
      dsimp only
      rw [taken, List.drop_length, if_neg accepted]
      rfl
  | false =>
      rw [if_neg Bool.false_ne_true, List.nil_append, ofCharacters?, taken, List.drop_length,
        if_neg accepted]
      · rfl
      · exact fun more same => unsigned (List.cons.inj (split.symm.trans same)).1

theorem ofCharacters?_ofInteger (value : Int) :
    ofCharacters? (ofInteger value).characters = some (ofInteger value) := by
  rw [ofInteger, characters]
  simpa [exponentCharacters] using ofCharacters?_digits (decide (value < 0)) value.natAbs

/-- The characters of the numeral of an integer: a digit or a minus sign, and digits. -/
theorem characters_ofInteger (value : Int) :
    ∃ first run, (ofInteger value).characters = first :: run ∧
      (isDigit first = true ∨ first = '-') ∧ ∀ character ∈ run, isDigit character = true := by
  obtain ⟨first, rest, split⟩ := List.exists_cons_of_ne_nil (digits_ne_nil value.natAbs)
  have allDigits : ∀ character ∈ first :: rest, isDigit character = true :=
    split ▸ fun _ => isDigit_of_mem_digits
  by_cases negative : value < 0
  · refine ⟨'-', first :: rest, ?_, .inr rfl, allDigits⟩
    simp [characters, ofInteger, exponentCharacters, negative, split]
  · refine ⟨first, rest, ?_, .inl (allDigits first (.head rest)),
      fun character member => allDigits character (.tail first member)⟩
    simp [characters, ofInteger, exponentCharacters, negative, split]

end Numeral

end Json

end StatelessPgp
