import Mathlib.Data.List.Infix
import Mathlib.Data.List.TakeWhile
import StatelessPgp.Text.Split

/-!
# Cutting at separators

A text is cut at the first occurrence of a separator, and no occurrence begins before it.  It is cut
at the last occurrence of a character, and there is none behind it.
-/

namespace StatelessPgp

namespace Text

variable {separator before after text : List Char}

/-- No occurrence of a separator begins before the one after the given text. -/
def FirstAfter (separator before after : List Char) : Prop :=
  ∀ early late, before = early ++ late → late ≠ [] →
    ¬ separator <+: late ++ (separator ++ after)

theorem FirstAfter.tail {character : Char}
    (first : FirstAfter separator (character :: before) after) :
    FirstAfter separator before after :=
  fun early late split => first (character :: early) late (congrArg (character :: ·) split)

theorem cutFirst_eq_some_iff : cutFirst separator text = some (before, after) ↔
    text = before ++ (separator ++ after) ∧ FirstAfter separator before after := by
  induction text generalizing before with
  | nil =>
      rw [cutFirst]
      cases separator with
      | nil => cases before <;> cases after <;> simp [FirstAfter]
      | cons mark separator => simp
  | cons character rest hypothesis =>
      rw [cutFirst]
      split
      · next occurs =>
          obtain ⟨later, whole⟩ := List.isPrefixOf_iff_prefix.1 occurs
          rw [← whole, List.drop_left]
          constructor
          · rintro ⟨⟩
            exact ⟨rfl, fun early late split filled => by simp_all⟩
          · rintro ⟨same, first⟩
            cases before with
            | nil => rw [List.append_cancel_left same]
            | cons head before =>
                refine absurd ?_ (first [] (head :: before) rfl nofun)
                exact same ▸ List.prefix_append separator later
      · next differs =>
          rw [List.isPrefixOf_iff_prefix] at differs
          rw [Option.map_eq_some_iff]
          constructor
          · rintro ⟨⟨shorter, later⟩, found, ⟨⟩⟩
            obtain ⟨rfl, first⟩ := hypothesis.1 found
            refine ⟨rfl, fun early late split filled => ?_⟩
            cases early with
            | nil =>
                rw [List.nil_append] at split
                exact split ▸ differs
            | cons head early =>
                exact first early late (List.cons.inj split).2 filled
          · rintro ⟨same, first⟩
            cases before with
            | nil => exact absurd ⟨after, same.symm⟩ differs
            | cons head before =>
                obtain ⟨rfl, rfl⟩ := List.cons.inj same
                exact ⟨(before, after), hypothesis.2 ⟨rfl, first.tail⟩, rfl⟩

theorem firstAfter_of_not_mem {mark : Char} (absent : mark ∉ before) (after : List Char)
    (rest : List Char) : FirstAfter (mark :: rest) before after := by
  rintro early late rfl filled ⟨more, same⟩
  obtain ⟨head, late, rfl⟩ := List.exists_cons_of_ne_nil filled
  obtain ⟨rfl, -⟩ := List.cons.inj same
  exact absent (by simp)

theorem cutFirst_eq_none_iff (filled : separator ≠ []) :
    cutFirst separator text = none ↔ ¬ separator <:+: text := by
  induction text with
  | nil => simp [cutFirst, filled]
  | cons character rest hypothesis =>
      rw [cutFirst, List.infix_cons_iff, not_or, ← hypothesis, ← List.isPrefixOf_iff_prefix]
      split
      · next occurs => simp [occurs]
      · next differs => simp [differs]

theorem FirstAfter.not_infix (first : FirstAfter separator before after)
    (filled : separator ≠ []) : ¬ separator <:+: before := by
  rintro ⟨early, more, rfl⟩
  refine first early (separator ++ more) (List.append_assoc _ _ _) (by simp [filled]) ?_
  rw [List.append_assoc]
  exact List.prefix_append _ _

/-- The first occurrence does not come after another one. -/
theorem FirstAfter.length_le {early rest : List Char}
    (first : FirstAfter separator before after)
    (other : before ++ (separator ++ after) = early ++ (separator ++ rest)) :
    before.length ≤ early.length := by
  by_contra longer
  have start : early <+: before := by
    have both : early <+: before ++ (separator ++ after) := other ▸ List.prefix_append _ _
    exact List.prefix_of_prefix_length_le both (List.prefix_append _ _) (by omega)
  obtain ⟨late, rfl⟩ := start
  rw [List.append_assoc, List.append_cancel_left_eq] at other
  have filled : late ≠ [] := by
    rintro rfl
    simp at longer
  exact first early late rfl filled ⟨rest, other.symm⟩

theorem dropSuffix_append (text ending : List Char) :
    dropSuffix ending (text ++ ending) = text := by
  simp [dropSuffix]

theorem dropSuffix_eq_self {ending : List Char} (absent : ¬ ending <:+ text) :
    dropSuffix ending text = text := by
  rw [dropSuffix, if_neg (by simpa using absent)]

theorem isPrefix_dropSuffix (ending text : List Char) : dropSuffix ending text <+: text := by
  rw [dropSuffix]
  split
  · exact List.take_prefix _ _
  · exact List.prefix_refl _

section

variable {item : List Char} {items : List (List Char)}

theorem splitItems_cons {character : Char} {rest : List Char}
    (apart : ¬ [',', ' '] <+: character :: rest) :
    splitItems (character :: rest) = growFirst character (splitItems rest) := by
  rw [splitItems]
  rintro more rfl rfl
  exact apart (by simp)

/-- The first item is the start of the text. -/
theorem exists_splitItems (text : List Char) :
    ∃ first others, splitItems text = first :: others ∧ first <+: text := by
  fun_induction splitItems text with
  | case1 => exact ⟨[], [], rfl, List.nil_prefix⟩
  | case2 rest => exact ⟨[], splitItems rest, rfl, List.nil_prefix⟩
  | case3 character rest _ hypothesis =>
      obtain ⟨first, others, cut, start⟩ := hypothesis
      exact ⟨character :: first, others, by rw [cut, growFirst],
        List.cons_prefix_cons.2 ⟨rfl, start⟩⟩

/-- Cutting a list into items adds no characters, and leaves no separator in an item. -/
theorem of_mem_splitItems (member : item ∈ splitItems text) :
    item ⊆ text ∧ ¬ [',', ' '] <:+: item := by
  fun_induction splitItems text generalizing item with
  | case1 =>
      obtain rfl := List.mem_singleton.1 member
      simp
  | case2 rest hypothesis =>
      rcases List.mem_cons.1 member with rfl | later
      · simp
      · obtain ⟨inside, whole⟩ := hypothesis later
        exact ⟨fun _ found => .tail _ (.tail _ (inside found)), whole⟩
  | case3 character rest apart hypothesis =>
      obtain ⟨first, others, cut, start⟩ := exists_splitItems rest
      rw [cut] at hypothesis member
      rw [growFirst] at member
      rcases List.mem_cons.1 member with rfl | later
      · obtain ⟨inside, whole⟩ := hypothesis (.head _)
        refine ⟨List.cons_subset_cons _ inside, ?_⟩
        rw [List.infix_cons_iff, not_or]
        refine ⟨?_, whole⟩
        rintro ⟨more, same⟩
        obtain ⟨rfl, rfl⟩ := List.cons.inj same
        obtain ⟨after, rfl⟩ := start
        exact apart (more ++ after) rfl rfl
      · obtain ⟨inside, whole⟩ := hypothesis (.tail _ later)
        exact ⟨fun _ found => .tail _ (inside found), whole⟩

theorem splitItems_append (whole : ¬ [',', ' '] <:+: item) (rest : List Char) :
    splitItems (item ++ ',' :: ' ' :: rest) = item :: splitItems rest := by
  induction item with
  | nil => rfl
  | cons first item hypothesis =>
      rw [List.infix_cons_iff, not_or] at whole
      have apart : ¬ [',', ' '] <+: first :: (item ++ ',' :: ' ' :: rest) := by
        intro start
        cases item with
        | nil => simp at start
        | cons second item =>
            simp only [List.cons_append, List.cons_prefix_cons, List.nil_prefix, and_true]
              at start whole
            exact whole.1 start
      rw [List.cons_append, splitItems_cons apart, hypothesis whole.2]
      rfl

theorem splitItems_of_whole (whole : ¬ [',', ' '] <:+: item) : splitItems item = [item] := by
  induction item with
  | nil => rfl
  | cons first item hypothesis =>
      rw [List.infix_cons_iff, not_or] at whole
      rw [splitItems_cons whole.1, hypothesis whole.2]
      rfl

/-- Items without separators are found again in the list that they were joined to. -/
theorem splitItems_intercalate (filled : items ≠ [])
    (whole : ∀ item ∈ items, ¬ [',', ' '] <:+: item) :
    splitItems ([',', ' '].intercalate items) = items := by
  induction items with
  | nil => exact absurd rfl filled
  | cons first others hypothesis =>
      rw [List.forall_mem_cons] at whole
      cases others with
      | nil =>
          rw [List.intercalate_singleton]
          exact splitItems_of_whole whole.1
      | cons second others =>
          have joined : [',', ' '].intercalate (first :: second :: others) =
              first ++ ',' :: ' ' :: [',', ' '].intercalate (second :: others) := by
            rw [List.intercalate_cons_cons, List.append_assoc]
            rfl
          rw [joined, splitItems_append whole.1, hypothesis nofun whole.2]

theorem not_mem_intercalate {character : Char} (apart : character ∉ separator)
    (absent : ∀ item ∈ items, character ∉ item) : character ∉ separator.intercalate items := by
  induction items with
  | nil => simp [List.intercalate]
  | cons first others hypothesis =>
      rw [List.forall_mem_cons] at absent
      cases others with
      | nil =>
          rw [List.intercalate_singleton]
          exact absent.1
      | cons second others =>
          rw [List.intercalate_cons_cons, List.mem_append, List.mem_append, not_or, not_or]
          exact ⟨⟨absent.1, apart⟩, hypothesis absent.2⟩

end

section

variable {mark : Char} {before after text : List Char}

theorem cutLast_append (unmarked : mark ∉ after) :
    cutLast mark (before ++ mark :: after) = some (before, after) := by
  have other : ∀ character ∈ after.reverse, (character != mark) = true := by
    intro character member
    rw [bne_iff_ne]
    rintro rfl
    exact unmarked (List.mem_reverse.1 member)
  have backwards : (before ++ mark :: after).reverse = after.reverse ++ mark :: before.reverse := by
    rw [List.reverse_append, List.reverse_cons, List.append_assoc, List.singleton_append]
  rw [cutLast, backwards, List.dropWhile_append_of_pos other, List.takeWhile_append_of_pos other]
  simp

theorem exists_last_of_mem (member : mark ∈ text) :
    ∃ before after, text = before ++ mark :: after ∧ mark ∉ after := by
  obtain ⟨last, first, backwards, unmarked⟩ :=
    List.eq_append_cons_of_mem (List.mem_reverse.2 member)
  refine ⟨first.reverse, last.reverse, ?_, fun found => unmarked (List.mem_reverse.1 found)⟩
  rw [← List.reverse_reverse text, backwards, List.reverse_append, List.reverse_cons,
    List.append_assoc, List.singleton_append]

theorem cutLast_eq_none_iff : cutLast mark text = none ↔ mark ∉ text := by
  constructor
  · intro uncut member
    obtain ⟨before, after, rfl, unmarked⟩ := exists_last_of_mem member
    rw [cutLast_append unmarked] at uncut
    cases uncut
  · intro absent
    have all : text.reverse.dropWhile (· != mark) = [] := by
      rw [List.dropWhile_eq_nil_iff]
      intro character member
      rw [bne_iff_ne]
      rintro rfl
      exact absent (List.mem_reverse.1 member)
    rw [cutLast, all]

/-- A text is cut at its last mark, if it has any. -/
theorem cutLast_eq_some_iff : cutLast mark text = some (before, after) ↔
    text = before ++ mark :: after ∧ mark ∉ after := by
  constructor
  · intro cut
    have member : mark ∈ text := by
      by_contra absent
      rw [cutLast_eq_none_iff.2 absent] at cut
      cases cut
    obtain ⟨front, last, rfl, unmarked⟩ := exists_last_of_mem member
    rw [cutLast_append unmarked] at cut
    cases cut
    exact ⟨rfl, unmarked⟩
  · rintro ⟨rfl, unmarked⟩
    exact cutLast_append unmarked

end

end Text

end StatelessPgp
