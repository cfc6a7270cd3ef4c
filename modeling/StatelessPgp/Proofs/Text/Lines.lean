import Mathlib.Data.List.Induction
import StatelessPgp.Proofs.Text.Words

/-!
# Lines of a trimmed text

Trimming a text takes away whole blank lines and the blank ends of its first and its last line.
Where lines are trimmed one by one and blank ones do not count, the lines stay the same.
-/

namespace StatelessPgp

namespace Text

variable {text line : List Char} {blank : Char}

theorem trim_trim (text : List Char) : trim (trim text) = trim text :=
  trim_eq_self (beginsVisibly_trim text) (endsVisibly_trim text)

section

variable (isBlank : isBlank blank = true)
include isBlank

theorem trimStart_blank_cons (text : List Char) : trimStart (blank :: text) = trimStart text :=
  List.dropWhile_cons_of_pos isBlank

theorem trimEnd_concat_blank (text : List Char) : trimEnd (text ++ [blank]) = trimEnd text := by
  rw [trimEnd, List.reverse_concat, List.dropWhile_cons_of_pos isBlank, trimEnd]

theorem trim_blank_cons (text : List Char) : trim (blank :: text) = trim text := by
  rw [trim, trimStart_blank_cons isBlank, trim]

theorem trim_concat_blank (text : List Char) : trim (text ++ [blank]) = trim text := by
  rw [trim, trim, trimStart, List.dropWhile_append]
  split
  · next none_left =>
      have leading : trimStart text = [] := List.isEmpty_iff.1 none_left
      rw [leading, List.dropWhile_cons_of_pos isBlank]
      rfl
  · exact trimEnd_concat_blank isBlank (trimStart text)

end

/-- A carriage return is blank. -/
theorem trim_dropCarriageReturn (line : List Char) :
    trim (dropCarriageReturn line) = trim line := by
  rw [dropCarriageReturn]
  split
  · next last =>
      obtain ⟨front, rfl⟩ := List.getLast?_eq_some_iff.1 last
      rw [List.dropLast_concat]
      exact (trim_concat_blank (by decide) front).symm
  · rfl

/-- The first piece ends at the first line feed. -/
theorem exists_splitAtLineFeeds_eq (text : List Char) :
    ∃ pieces, splitAtLineFeeds text = text.takeWhile (· != '\n') :: pieces := by
  induction text with
  | nil => exact ⟨[], rfl⟩
  | cons first text hypothesis =>
      obtain ⟨pieces, cut⟩ := hypothesis
      rw [splitAtLineFeeds, List.takeWhile_cons]
      by_cases ends : first = '\n'
      · exact ⟨splitAtLineFeeds text, by simp [ends]⟩
      · exact ⟨pieces, by simp [ends, cut, growFirst]⟩

/-- The lines of a text that are not blank, each without the blank characters around it. -/
def trimmedLines (text : List Char) : List (List Char) :=
  (filledLines text).map trim

/-- The lines are the trimmed pieces between line feeds, but for the blank ones. -/
theorem trimmedLines_eq (text : List Char) :
    trimmedLines text = ((splitAtLineFeeds text).map trim).filter fun line => !line.isEmpty := by
  have trimmed (pieces : List (List Char)) :
      ((linesOfPieces pieces).map trim).filter (fun line => !line.isEmpty) =
        (pieces.map trim).filter fun line => !line.isEmpty := by
    fun_induction linesOfPieces pieces with
    | case1 => rfl
    | case2 last empty =>
        rw [List.isEmpty_iff.1 empty]
        rfl
    | case3 => rfl
    | case4 piece pieces _ hypothesis =>
        rw [List.map_cons, List.map_cons, trim_dropCarriageReturn, List.filter_cons,
          List.filter_cons, hypothesis]
  rw [trimmedLines, filledLines, lines, ← trimmed, List.filter_map]
  rfl

/-- A blank character in front of a text belongs to the first piece, unless it ends a blank
line. -/
theorem trimmedLines_blank_cons (isBlank : isBlank blank = true) (text : List Char) :
    trimmedLines (blank :: text) = trimmedLines text := by
  rw [trimmedLines_eq, trimmedLines_eq, splitAtLineFeeds]
  split
  · rfl
  · obtain ⟨piece, pieces, cut⟩ := List.exists_cons_of_ne_nil (splitAtLineFeeds_ne_nil text)
    rw [cut, growFirst, List.map_cons, List.map_cons, trim_blank_cons isBlank]

/-- A character after a text belongs to the last piece, or it ends that piece. -/
theorem splitAtLineFeeds_concat (text : List Char) (character : Char) :
    ∃ pieces last, splitAtLineFeeds text = pieces ++ [last] ∧
      splitAtLineFeeds (text ++ [character]) =
        pieces ++ if character = '\n' then [last, []] else [last ++ [character]] := by
  induction text with
  | nil =>
      refine ⟨[], [], rfl, ?_⟩
      rw [List.nil_append, splitAtLineFeeds]
      split <;> rfl
  | cons first text hypothesis =>
      obtain ⟨pieces, last, cut, grown⟩ := hypothesis
      rw [List.cons_append, splitAtLineFeeds, splitAtLineFeeds, cut, grown]
      by_cases ends : first = '\n'
      · exact ⟨[] :: pieces, last, by rw [if_pos ends]; rfl, by rw [if_pos ends]; rfl⟩
      · rw [if_neg ends, if_neg ends]
        cases pieces with
        | nil =>
            refine ⟨[], first :: last, rfl, ?_⟩
            split <;> rfl
        | cons piece pieces => exact ⟨(first :: piece) :: pieces, last, rfl, rfl⟩

theorem trimmedLines_concat_blank (isBlank : isBlank blank = true) (text : List Char) :
    trimmedLines (text ++ [blank]) = trimmedLines text := by
  obtain ⟨pieces, last, cut, grown⟩ := splitAtLineFeeds_concat text blank
  rw [trimmedLines_eq, trimmedLines_eq, cut, grown]
  split
  · rw [List.map_append, List.map_append, List.filter_append, List.filter_append]
    rfl
  · rw [List.map_append, List.map_append, List.map_singleton, List.map_singleton,
      trim_concat_blank isBlank]

theorem trimmedLines_trimStart (text : List Char) :
    trimmedLines (trimStart text) = trimmedLines text := by
  induction text with
  | nil => rfl
  | cons first text hypothesis =>
      cases leading : isBlank first with
      | false => rw [trimStart_cons leading]
      | true => rw [trimStart_blank_cons leading, hypothesis, trimmedLines_blank_cons leading]

theorem trimmedLines_trimEnd (text : List Char) :
    trimmedLines (trimEnd text) = trimmedLines text := by
  induction text using List.reverseRecOn with
  | nil => rfl
  | append_singleton text last hypothesis =>
      cases trailing : isBlank last with
      | false =>
          have ends : EndsVisibly (text ++ [last]) := by
            intro character final
            rw [List.getLast?_concat] at final
            cases final
            exact trailing
          rw [trimEnd_eq_self ends]
      | true =>
          rw [trimEnd_concat_blank trailing, hypothesis, trimmedLines_concat_blank trailing]

/-- Trimming the whole text first makes no difference to its trimmed lines. -/
theorem trimmedLines_trim (text : List Char) : trimmedLines (trim text) = trimmedLines text := by
  rw [trim, trimmedLines_trimEnd, trimmedLines_trimStart]

end Text
end StatelessPgp
