import Mathlib.Data.List.Infix
import Mathlib.Data.List.TakeWhile
import StatelessPgp.Text.Split

/-!
# Words and lines

Words are separated by single spaces, while trimming takes all blank characters away.  What
begins and ends with visible characters is left alone by trimming; a word without spaces
can be taken off the text that it was put in front of; and lines without line feeds are
found again in the text that they were joined to.
-/

namespace StatelessPgp

namespace Text

variable {text word rest part line : List Char}

/-- The first character, if there is one, is visible. -/
def BeginsVisibly (text : List Char) : Prop :=
  ∀ character, text.head? = some character → isBlank character = false

/-- The last character, if there is one, is visible. -/
def EndsVisibly (text : List Char) : Prop :=
  ∀ character, text.getLast? = some character → isBlank character = false

theorem BeginsVisibly.front (begins : BeginsVisibly text) (initial : part <+: text) :
    BeginsVisibly part := by
  intro character first
  obtain ⟨more, rfl⟩ := initial
  apply begins character
  rw [List.head?_append, first]
  rfl

theorem EndsVisibly.back (ends : EndsVisibly text) (final : part <:+ text) :
    EndsVisibly part := by
  intro character last
  obtain ⟨before, rfl⟩ := final
  apply ends character
  rw [List.getLast?_append, last]
  rfl

theorem BeginsVisibly.append (begins : BeginsVisibly text) (filled : text ≠ [])
    (after : List Char) : BeginsVisibly (text ++ after) := by
  intro character first
  obtain ⟨initial, more, rfl⟩ := List.exists_cons_of_ne_nil filled
  exact begins character first

theorem EndsVisibly.append (ends : EndsVisibly text) (filled : text ≠ [])
    (before : List Char) : EndsVisibly (before ++ text) := by
  intro character last
  obtain ⟨front, final, rfl⟩ := List.eq_nil_or_concat text |>.resolve_left filled
  apply ends character
  rw [List.concat_eq_append] at last ⊢
  rw [← List.append_assoc, List.getLast?_concat] at last
  rw [List.getLast?_concat, last]

theorem beginsVisibly_trimStart (text : List Char) : BeginsVisibly (trimStart text) := by
  intro character first
  have dropped := List.head?_dropWhile_not isBlank text
  rw [trimStart] at first
  rw [first] at dropped
  exact dropped

theorem endsVisibly_trimEnd (text : List Char) : EndsVisibly (trimEnd text) := by
  intro character last
  rw [trimEnd, List.getLast?_reverse] at last
  exact beginsVisibly_trimStart text.reverse character last

theorem isSuffix_trimStart (text : List Char) : trimStart text <:+ text :=
  List.dropWhile_suffix isBlank

theorem isPrefix_trimEnd (text : List Char) : trimEnd text <+: text := by
  have back : text.reverse.dropWhile isBlank <:+ text.reverse := List.dropWhile_suffix isBlank
  simpa [trimEnd] using List.reverse_prefix.2 back

theorem beginsVisibly_trim (text : List Char) : BeginsVisibly (trim text) :=
  (beginsVisibly_trimStart text).front (isPrefix_trimEnd _)

theorem endsVisibly_trim (text : List Char) : EndsVisibly (trim text) :=
  endsVisibly_trimEnd _

theorem mem_of_mem_trim {character : Char} (member : character ∈ trim text) :
    character ∈ text :=
  (isSuffix_trimStart text).mem ((isPrefix_trimEnd _).mem member)

theorem isInfix_trim (text : List Char) : trim text <:+: text :=
  (isPrefix_trimEnd _).isInfix.trans (isSuffix_trimStart text).isInfix

theorem trimStart_cons {character : Char} (visible : isBlank character = false)
    (rest : List Char) : trimStart (character :: rest) = character :: rest :=
  List.dropWhile_cons_of_neg (by simp [visible])

theorem trimStart_eq_self (begins : BeginsVisibly text) : trimStart text = text := by
  cases text with
  | nil => rfl
  | cons first rest => exact trimStart_cons (begins first rfl) rest

theorem trimEnd_eq_self (ends : EndsVisibly text) : trimEnd text = text := by
  have begins : BeginsVisibly text.reverse := by
    intro character first
    rw [List.head?_reverse] at first
    exact ends character first
  have kept : text.reverse.dropWhile isBlank = text.reverse := trimStart_eq_self begins
  rw [trimEnd, kept, List.reverse_reverse]

theorem trim_eq_self (begins : BeginsVisibly text) (ends : EndsVisibly text) :
    trim text = text := by
  rw [trim, trimStart_eq_self begins, trimEnd_eq_self ends]

/-- A blank character at the end is trimmed away. -/
theorem trim_append_blank {blank : Char} (begins : BeginsVisibly text)
    (ends : EndsVisibly text) (filled : text ≠ []) (isBlank : isBlank blank = true) :
    trim (text ++ [blank]) = text := by
  have kept : trimEnd text = text := trimEnd_eq_self ends
  rw [trim, trimStart_eq_self (begins.append filled [blank]), trimEnd, List.reverse_concat,
    List.dropWhile_cons_of_pos isBlank]
  exact kept

section

variable (next : nextWord text = (word, rest))
include next

theorem space_not_mem_nextWord : ' ' ∉ word := by
  obtain ⟨rfl, -⟩ := Prod.mk.inj next
  intro member
  simpa using List.mem_takeWhile_imp member

theorem isPrefix_nextWord : word <+: text := by
  obtain ⟨rfl, -⟩ := Prod.mk.inj next
  exact List.takeWhile_prefix _

theorem isSuffix_nextWord : rest <:+ text := by
  obtain ⟨-, rfl⟩ := Prod.mk.inj next
  exact (isSuffix_trimStart _).trans (List.dropWhile_suffix _)

theorem beginsVisibly_rest : BeginsVisibly rest := by
  obtain ⟨-, rfl⟩ := Prod.mk.inj next
  exact beginsVisibly_trimStart _

/-- A text that ends visibly has something after its first word, or it is the word. -/
theorem nextWord_eq_self (ends : EndsVisibly text) (last : rest = []) : word = text := by
  obtain ⟨rfl, rfl⟩ := Prod.mk.inj next
  have blank := List.dropWhile_eq_nil_iff.1 last
  have after : EndsVisibly (text.dropWhile (· != ' ')) :=
    ends.back (List.dropWhile_suffix _)
  have nothing : text.dropWhile (· != ' ') = [] := by
    by_contra filled
    have final := List.getLast?_eq_some_getLast filled
    have visible := after _ final
    rw [blank _ (List.getLast_mem filled)] at visible
    cases visible
  calc text.takeWhile (· != ' ')
      = text.takeWhile (· != ' ') ++ text.dropWhile (· != ' ') := by
        rw [nothing, List.append_nil]
    _ = text := List.takeWhile_append_dropWhile

end

theorem nextWord_append (unbroken : ' ' ∉ word) (begins : BeginsVisibly rest) :
    nextWord (word ++ ' ' :: rest) = (word, rest) := by
  have inside : ∀ character ∈ word, (character != ' ') = true := by
    intro character member
    rw [bne_iff_ne]
    rintro rfl
    exact unbroken member
  have blank : isBlank ' ' = true := by decide
  rw [nextWord, List.takeWhile_append_of_pos inside, List.dropWhile_append_of_pos inside,
    List.takeWhile_cons_of_neg (by simp), List.dropWhile_cons_of_neg (by simp),
    List.append_nil, trimStart, List.dropWhile_cons_of_pos blank]
  exact congrArg (Prod.mk word) (trimStart_eq_self begins)

theorem nextWord_of_unbroken (unbroken : ' ' ∉ text) : nextWord text = (text, []) := by
  have inside : ∀ character ∈ text, (character != ' ') = true := by
    intro character member
    rw [bne_iff_ne]
    rintro rfl
    exact unbroken member
  rw [nextWord, List.takeWhile_eq_self_iff.2 inside, List.dropWhile_eq_nil_iff.2 inside]
  rfl

theorem splitAtLineFeeds_append (whole : '\n' ∉ line) (rest : List Char) :
    splitAtLineFeeds (line ++ '\n' :: rest) = line :: splitAtLineFeeds rest := by
  induction line with
  | nil => rfl
  | cons first line hypothesis =>
      have differs : first ≠ '\n' := fun same => whole (same ▸ .head _)
      have later := hypothesis fun member => whole (.tail _ member)
      rw [List.cons_append, splitAtLineFeeds, if_neg differs, later]
      rfl

theorem splitAtLineFeeds_ne_nil (text : List Char) : splitAtLineFeeds text ≠ [] := by
  cases text with
  | nil => exact nofun
  | cons first rest =>
      rw [splitAtLineFeeds]
      split
      · exact nofun
      · cases splitAtLineFeeds rest <;> exact nofun

/-- Cutting a text into lines adds no characters to it, and takes the line feeds away. -/
theorem forall_mem_splitAtLineFeeds {holds : Char → Prop}
    (all : ∀ character ∈ text, character ≠ '\n' → holds character) :
    ∀ piece ∈ splitAtLineFeeds text, ∀ character ∈ piece, holds character := by
  induction text with
  | nil => simp [splitAtLineFeeds]
  | cons character rest hypothesis =>
      obtain ⟨first, others⟩ := List.forall_mem_cons.1 all
      have pieces := hypothesis others
      rw [splitAtLineFeeds]
      split
      · exact List.forall_mem_cons.2 ⟨nofun, pieces⟩
      · next differs =>
          have here := first differs
          cases cut : splitAtLineFeeds rest with
          | nil => simpa [growFirst] using here
          | cons piece more =>
              rw [cut] at pieces
              obtain ⟨head, tail⟩ := List.forall_mem_cons.1 pieces
              exact List.forall_mem_cons.2 ⟨List.forall_mem_cons.2 ⟨here, head⟩, tail⟩

theorem mem_of_mem_dropCarriageReturn {character : Char}
    (member : character ∈ dropCarriageReturn line) : character ∈ line := by
  rw [dropCarriageReturn] at member
  split at member
  · exact List.mem_of_mem_dropLast member
  · exact member

theorem forall_mem_linesOfPieces {holds : Char → Prop} {pieces : List (List Char)}
    (all : ∀ piece ∈ pieces, ∀ character ∈ piece, holds character) :
    ∀ line ∈ linesOfPieces pieces, ∀ character ∈ line, holds character := by
  fun_induction linesOfPieces pieces with
  | case1 => exact nofun
  | case2 => exact nofun
  | case3 => exact all
  | case4 piece pieces _ hypothesis =>
      obtain ⟨first, others⟩ := List.forall_mem_cons.1 all
      refine List.forall_mem_cons.2 ⟨?_, hypothesis others⟩
      exact fun character member => first character (mem_of_mem_dropCarriageReturn member)

theorem forall_mem_filledLines {holds : Char → Prop}
    (all : ∀ character ∈ text, character ≠ '\n' → holds character) :
    ∀ line ∈ filledLines text, ∀ character ∈ line, holds character := by
  intro line member
  exact forall_mem_linesOfPieces (forall_mem_splitAtLineFeeds all) line
    (List.mem_of_mem_filter member)

theorem lineFeed_not_mem_filledLine (member : line ∈ filledLines text) : '\n' ∉ line := by
  have other : ∀ character ∈ text, character ≠ '\n' → character ≠ '\n' := fun _ _ => id
  exact fun inside => forall_mem_filledLines other line member '\n' inside rfl

theorem trim_of_blank (blank : ∀ character ∈ text, isBlank character = true) :
    trim text = [] := by
  have leading : trimStart text = [] := List.dropWhile_eq_nil_iff.2 blank
  rw [trim, leading]
  rfl

theorem filledLines_of_blank (blank : ∀ character ∈ text, isBlank character = true) :
    filledLines text = [] := by
  have all := forall_mem_filledLines fun character member _ => blank character member
  rw [List.eq_nil_iff_forall_not_mem]
  intro line member
  have filled := (List.mem_filter.1 member).2
  rw [trim_of_blank (all line member)] at filled
  cases filled

theorem dropCarriageReturn_eq_self (ends : EndsVisibly line) :
    dropCarriageReturn line = line := by
  rw [dropCarriageReturn, if_neg]
  intro last
  cases ends _ last

/-- Lines that were ended with line feeds are found again. -/
theorem lines_joined {ls : List (List Char)} (whole : ∀ line ∈ ls, '\n' ∉ line)
    (ends : ∀ line ∈ ls, EndsVisibly line) :
    lines (ls.flatMap (· ++ ['\n'])) = ls := by
  induction ls with
  | nil => rfl
  | cons line ls hypothesis =>
      obtain ⟨first, others⟩ := List.forall_mem_cons.1 whole
      obtain ⟨visible, more⟩ := List.forall_mem_cons.1 ends
      have later := hypothesis others more
      rw [lines] at later ⊢
      rw [List.flatMap_cons, List.append_assoc, List.singleton_append,
        splitAtLineFeeds_append first]
      obtain ⟨piece, pieces, cut⟩ := List.exists_cons_of_ne_nil
        (splitAtLineFeeds_ne_nil (ls.flatMap (· ++ ['\n'])))
      rw [cut] at later ⊢
      rw [linesOfPieces, dropCarriageReturn_eq_self visible, later]
      exact nofun

theorem filledLines_joined {ls : List (List Char)} (whole : ∀ line ∈ ls, '\n' ∉ line)
    (begins : ∀ line ∈ ls, BeginsVisibly line) (ends : ∀ line ∈ ls, EndsVisibly line)
    (filled : ∀ line ∈ ls, line ≠ []) :
    filledLines (ls.flatMap (· ++ ['\n'])) = ls := by
  rw [filledLines, lines_joined whole ends, List.filter_eq_self]
  intro line member
  rw [trim_eq_self (begins line member) (ends line member)]
  simp [filled line member]

/-- A text with something in it that trimming leaves alone. -/
structure IsTrimmed (text : List Char) : Prop where
  filled : text ≠ []
  begins : BeginsVisibly text
  ends : EndsVisibly text

theorem IsTrimmed.trim_eq (trimmed : IsTrimmed text) : trim text = text :=
  trim_eq_self trimmed.begins trimmed.ends

theorem isTrimmed_of_visible (filled : text ≠ [])
    (visible : ∀ character ∈ text, isBlank character = false) : IsTrimmed text where
  filled := filled
  begins character first := visible character (List.mem_of_mem_head? first)
  ends character last := visible character (List.mem_of_mem_getLast? last)

theorem isTrimmed_append (begins : BeginsVisibly part) (filledFront : part ≠ [])
    (ends : EndsVisibly text) (filledBack : text ≠ []) : IsTrimmed (part ++ text) where
  filled := List.append_ne_nil_of_left_ne_nil filledFront _
  begins := begins.append filledFront _
  ends := ends.append filledBack _

theorem stripped?_eq_none {text : String} (blank : stripped? text = none) :
    trim text.toList = [] := by
  rw [stripped?, strip] at blank
  split at blank
  · next empty => simpa using empty
  · cases blank

theorem stripped?_eq_some {text inner : String} (found : stripped? text = some inner) :
    inner.toList = trim text.toList ∧ inner.toList ≠ [] := by
  rw [stripped?, strip] at found
  split at found
  · cases found
  · next filled =>
      cases found
      rw [String.toList_ofList]
      refine ⟨rfl, ?_⟩
      intro empty
      rw [empty] at filled
      exact filled rfl

theorem isTrimmed_of_stripped {text inner : String} (found : stripped? text = some inner) :
    IsTrimmed inner.toList := by
  obtain ⟨trimmed, filled⟩ := stripped?_eq_some found
  refine ⟨filled, ?_, ?_⟩ <;> rw [trimmed]
  · exact beginsVisibly_trim _
  · exact endsVisibly_trim _

theorem IsTrimmed.stripped?_eq {text : String} (trimmed : IsTrimmed text.toList) :
    stripped? text = some text := by
  have visible : text.isEmpty ≠ true := by
    intro empty
    rw [String.isEmpty_iff] at empty
    exact trimmed.filled (by rw [empty]; rfl)
  rw [stripped?, strip, trimmed.trim_eq, String.ofList_toList, if_neg visible]

/-- A text that keeps its ends when it is trimmed, and stands in one line. -/
structure IsFreeText (text : List Char) : Prop where
  filled : text ≠ []
  begins : BeginsVisibly text
  ends : EndsVisibly text
  whole : '\n' ∉ text

theorem IsFreeText.trimmed (free : IsFreeText text) : IsTrimmed text :=
  ⟨free.filled, free.begins, free.ends⟩

theorem isFreeText_of_stripped {text inner : String} (found : stripped? text = some inner)
    (whole : '\n' ∉ text.toList) : IsFreeText inner.toList := by
  obtain ⟨filled, begins, ends⟩ := isTrimmed_of_stripped found
  refine ⟨filled, begins, ends, ?_⟩
  rw [(stripped?_eq_some found).1]
  exact fun member => whole (mem_of_mem_trim member)

end Text
end StatelessPgp
