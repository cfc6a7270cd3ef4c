import StatelessPgp.Profile
import StatelessPgp.Proofs.Text.Cuts
import StatelessPgp.Proofs.Text.Words

/-!
# The line of a profile

A line is cut after the name, and the rest of it at the first mark of aliases.  It is read as
the profile that it was written from just if no such mark begins within the description, and
the aliases are the items of their list.
-/

namespace StatelessPgp

open Text

namespace Profile

/-- What stands before the aliases of a line, without the blank at its end. -/
def aliasMarkStem : List Char := "(aliases:".toList

theorem aliasMark_eq : aliasMark = aliasMarkStem ++ [' '] := by decide

theorem aliasMark_ne_nil : aliasMark ≠ [] := by decide

theorem blank_not_mem_aliasMarkStem : ' ' ∉ aliasMarkStem := by decide

/-- A profile that can be made from its parts. -/
structure Accepted (profile : Profile) : Prop where
  filled : profile.name.toList ≠ []
  unmarked : ':' ∉ profile.name.toList
  visible : ∀ character ∈ profile.name.toList, isBlank character = false
  description : ∀ text, profile.description = some text → IsTrimmed text.toList
  short : profile.render.utf8ByteSize ≤ maxLineBytes

/-- Neither the description nor an alias holds what separates them in the line. -/
structure IsPlain (profile : Profile) : Prop where
  description : ∀ text, profile.description = some text → ¬ aliasMark <:+: text.toList
  before_aliases : profile.aliases ≠ [] → ∀ text, profile.description = some text →
    ¬ aliasMarkStem <:+ text.toList
  aliases : ∀ synonym ∈ profile.aliases,
    synonym.toList ≠ [] ∧ trim synonym.toList = synonym.toList ∧
      ¬ [',', ' '] <:+: synonym.toList

/-- The line of a profile would be too long. -/
def lineTooLong : Failure :=
  .new .badData "The line representation of a profile must not exceed 1000 bytes"

variable {profile : Profile} {name : String} {description : Option String}
variable {aliases : List String} {text list : List Char}

theorem new_eq_of_name (filled : name.toList ≠ []) (unmarked : ':' ∉ name.toList)
    (visible : ∀ character ∈ name.toList, isBlank character = false) :
    new name description aliases =
      if maxLineBytes < (render ⟨name, description.bind stripped?, aliases⟩).utf8ByteSize then
        .error lineTooLong
      else .ok ⟨name, description.bind stripped?, aliases⟩ := by
  have trimmed := (isTrimmed_of_visible filled visible).trim_eq
  rw [new, if_neg (by simpa [trimmed] using filled), if_neg (by simpa using unmarked),
    if_neg (by simpa using visible)]
  rfl

theorem new_eq_ok_iff : new name description aliases = .ok profile ↔
    profile = ⟨name, description.bind stripped?, aliases⟩ ∧ name.toList ≠ [] ∧
      ':' ∉ name.toList ∧ (∀ character ∈ name.toList, isBlank character = false) ∧
      profile.render.utf8ByteSize ≤ maxLineBytes := by
  constructor
  · intro made
    rw [new] at made
    split at made
    · cases made
    · next filled =>
        split at made
        · cases made
        · next unmarked =>
            split at made
            · cases made
            · next visible =>
                dsimp only at made
                split at made
                · cases made
                · next short =>
                    cases made
                    refine ⟨rfl, ?_, by simpa using unmarked, by simpa using visible, by omega⟩
                    intro nothing
                    rw [nothing] at filled
                    exact filled rfl
  · rintro ⟨rfl, filled, unmarked, visible, short⟩
    rw [new_eq_of_name filled unmarked visible, if_neg (by omega)]

theorem accepted_of_new (made : new name description aliases = .ok profile) :
    profile.Accepted := by
  obtain ⟨rfl, filled, unmarked, visible, short⟩ := new_eq_ok_iff.1 made
  refine ⟨filled, unmarked, visible, ?_, short⟩
  intro text found
  obtain ⟨given, -, stripped⟩ := Option.bind_eq_some_iff.1 found
  exact isTrimmed_of_stripped stripped

/-- Aliases that are read are trimmed items of their list. -/
theorem of_mem_readAliases {synonym : String} (member : synonym ∈ readAliases list) :
    IsTrimmed synonym.toList ∧ ¬ [',', ' '] <:+: synonym.toList ∧ synonym.toList ⊆ list := by
  obtain ⟨item, kept, rfl⟩ := List.mem_map.1 member
  obtain ⟨trimmed, filled⟩ := List.mem_filter.1 kept
  obtain ⟨piece, inside, rfl⟩ := List.mem_map.1 trimmed
  obtain ⟨taken, uncut⟩ := of_mem_splitItems inside
  rw [String.toList_ofList]
  refine ⟨⟨by simpa using filled, beginsVisibly_trim _, endsVisibly_trim _⟩, ?_, ?_⟩
  · intro separated
    exact uncut (separated.trans (isInfix_trim piece))
  · intro character found
    exact (isPrefix_dropSuffix _ _).mem (taken (mem_of_mem_trim found))

/-- What follows the name of a profile in its line. -/
def remainder (profile : Profile) : List Char :=
  match profile.description, profile.aliases with
  | none, aliases =>
      aliasMark ++ ([',', ' '].intercalate (aliases.map String.toList) ++ [')'])
  | some text, [] => text.toList
  | some text, aliases =>
      text.toList ++ ' ' :: (aliasMark ++
        ([',', ' '].intercalate (aliases.map String.toList) ++ [')']))

theorem written_eq : profile.written =
    if profile.description = none ∧ profile.aliases = [] then profile.name.toList
    else profile.name.toList ++ ([':', ' '] ++ profile.remainder) := by
  obtain ⟨name, description, aliases⟩ := profile
  cases description <;> cases aliases <;> simp [written, remainder]

theorem remainder_eq {inner : String} (described : profile.description = some inner)
    (some_aliases : profile.aliases ≠ []) :
    profile.remainder = (inner.toList ++ [' ']) ++ (aliasMark ++
      ([',', ' '].intercalate (profile.aliases.map String.toList) ++ [')'])) := by
  rw [remainder, described]
  split
  · cases ‹some inner = none›
  · exact absurd ‹profile.aliases = []› some_aliases
  · next same _ =>
      cases same
      simp

theorem readAliases_eq (plain : profile.IsPlain) (some_aliases : profile.aliases ≠ []) :
    readAliases ([',', ' '].intercalate (profile.aliases.map String.toList) ++ [')']) =
      profile.aliases := by
  have uncut : ∀ item ∈ profile.aliases.map String.toList, ¬ [',', ' '] <:+: item := by
    rw [List.forall_mem_map]
    exact fun synonym member => (plain.aliases synonym member).2.2
  have kept : (profile.aliases.map String.toList).map trim =
      profile.aliases.map String.toList := by
    rw [List.map_map]
    exact List.map_congr_left fun synonym member => (plain.aliases synonym member).2.1
  have filled : (profile.aliases.map String.toList).filter (!·.isEmpty) =
      profile.aliases.map String.toList := by
    rw [List.filter_eq_self, List.forall_mem_map]
    intro synonym member
    simpa using (plain.aliases synonym member).1
  rw [readAliases, dropSuffix_append, splitItems_intercalate (by simpa using some_aliases) uncut,
    kept, filled, List.map_map]
  exact (List.map_congr_left fun _ _ => String.ofList_toList).trans (List.map_id _)

/-- The mark and the aliases after it. -/
theorem isTrimmed_aliases (aliases : List String) : IsTrimmed (aliasMark ++
    ([',', ' '].intercalate (aliases.map String.toList) ++ [')'])) := by
  have mark : BeginsVisibly aliasMark := by
    rintro character ⟨⟩
    decide
  have bracket : EndsVisibly [')'] := by
    rintro character ⟨⟩
    decide
  exact isTrimmed_append mark aliasMark_ne_nil (bracket.append nofun _) (by simp)

/-- Where a description does not end like the mark, the mark is found after it. -/
theorem firstAfter_description (unmarked : ¬ aliasMark <:+: text)
    (apart : ¬ aliasMarkStem <:+ text) (rest : List Char) :
    FirstAfter aliasMark (text ++ [' ']) rest := by
  intro early late split filled start
  obtain ⟨last, shorter, rfl⟩ : ∃ last shorter, late = shorter ++ [last] := by
    rcases List.eq_nil_or_concat late with rfl | ⟨shorter, last, rfl⟩
    · exact absurd rfl filled
    · exact ⟨last, shorter, List.concat_eq_append⟩
  rw [← List.append_assoc] at split
  obtain ⟨whole, blank⟩ := List.append_inj' split rfl
  cases blank
  have inside : shorter <:+: text := by
    rw [whole]
    exact (List.suffix_append _ _).isInfix
  rw [List.append_assoc] at start
  rcases List.prefix_or_prefix_of_prefix start (List.prefix_append _ _) with within | beyond
  · exact unmarked (within.isInfix.trans inside)
  · -- Then the mark ends with the blank after the description.
    obtain ⟨tail, mark⟩ := beyond
    cases tail with
    | nil =>
        rw [List.append_nil] at mark
        rw [mark] at inside
        exact unmarked inside
    | cons first tail =>
        have blank : first = ' ' := by
          obtain ⟨more, same⟩ := start
          rw [← mark, List.append_assoc, List.append_cancel_left_eq] at same
          exact (List.cons.inj same).1
        subst blank
        rw [aliasMark_eq] at mark
        rcases List.eq_nil_or_concat tail with rfl | ⟨before, final, rfl⟩
        · rw [List.append_cancel_right_eq] at mark
          exact apart ⟨early, mark ▸ whole.symm⟩
        · rw [List.concat_eq_append, ← List.cons_append, ← List.append_assoc] at mark
          apply blank_not_mem_aliasMarkStem
          rw [← (List.append_inj' mark rfl).1]
          simp

theorem isPrefix_remainder {inner : String} (described : profile.description = some inner) :
    inner.toList <+: profile.remainder := by
  by_cases bare : profile.aliases = []
  · rw [remainder, described, bare]
  · rw [remainder_eq described bare, List.append_assoc]
    exact List.prefix_append _ _

namespace Accepted

variable (accepted : profile.Accepted)
include accepted

theorem isTrimmed_name : IsTrimmed profile.name.toList :=
  isTrimmed_of_visible accepted.filled accepted.visible

theorem isTrimmed_remainder : IsTrimmed profile.remainder := by
  have ending := isTrimmed_aliases profile.aliases
  rw [remainder]
  split
  · exact ending
  · next text _ described _ => exact accepted.description _ described
  · next text _ _ described _ =>
      have trimmed := accepted.description _ described
      refine isTrimmed_append trimmed.begins trimmed.filled ?_ nofun
      exact ending.ends.append ending.filled [' ']

theorem isTrimmed_written : IsTrimmed profile.written := by
  have name := accepted.isTrimmed_name
  rw [written_eq]
  split
  · exact name
  · have rest := accepted.isTrimmed_remainder
    exact isTrimmed_append name.begins name.filled (rest.ends.append rest.filled _) nofun

/-- The line of a profile is cut after its name. -/
theorem ofLine_written (more : ¬ (profile.description = none ∧ profile.aliases = [])) :
    ofLine profile.written =
      match cutFirst aliasMark profile.remainder with
      | none => new profile.name (some (String.ofList profile.remainder)) []
      | some (text, list) => new profile.name (some (String.ofList text)) (readAliases list) := by
  have cut : cutFirst [':', ' '] profile.written =
      some (profile.name.toList, profile.remainder) := by
    rw [cutFirst_eq_some_iff, written_eq, if_neg more]
    exact ⟨rfl, firstAfter_of_not_mem accepted.unmarked _ _⟩
  rw [ofLine, accepted.isTrimmed_written.trim_eq]
  dsimp only
  rw [cut]
  dsimp only
  rw [accepted.isTrimmed_remainder.trim_eq]
  cases cutFirst aliasMark profile.remainder with
  | none => rw [String.ofList_toList]
  | some found => rw [String.ofList_toList]

theorem ofLine_written_of_bare (bare : profile.description = none ∧ profile.aliases = []) :
    ofLine profile.written = new profile.name none [] := by
  have written : profile.written = profile.name.toList := by rw [written_eq, if_pos bare]
  have uncut : cutFirst [':', ' '] profile.name.toList = none := by
    rw [cutFirst_eq_none_iff (List.cons_ne_nil _ _)]
    exact fun inside => accepted.unmarked (inside.subset (.head _))
  have unended : ¬ [':'] <:+ profile.name.toList := fun ending =>
    accepted.unmarked (ending.subset (.head _))
  rw [ofLine, written, accepted.isTrimmed_name.trim_eq]
  dsimp only
  rw [uncut]
  dsimp only
  rw [dropSuffix_eq_self unended, String.ofList_toList]

/-- Whatever the line is taken for, the name stays what it was. -/
theorem exists_ofLine_written :
    ∃ described synonyms, ofLine profile.written = new profile.name described synonyms := by
  by_cases bare : profile.description = none ∧ profile.aliases = []
  · exact ⟨none, [], accepted.ofLine_written_of_bare bare⟩
  · rw [accepted.ofLine_written bare]
    cases cutFirst aliasMark profile.remainder with
    | none => exact ⟨_, _, rfl⟩
    | some parts => exact ⟨_, _, rfl⟩

/-- Only the length of a line can be wrong with it. -/
theorem ofLine_written_eq_error {failure : Failure}
    (refused : ofLine profile.written = .error failure) : failure = lineTooLong := by
  obtain ⟨described, synonyms, read⟩ := accepted.exists_ofLine_written
  rw [read, new_eq_of_name accepted.filled accepted.unmarked accepted.visible] at refused
  split at refused <;> cases refused
  rfl

theorem new_eq {described : Option String}
    (same : described.bind stripped? = profile.description) :
    new profile.name described profile.aliases = .ok profile := by
  rw [new_eq_ok_iff, same]
  exact ⟨rfl, accepted.filled, accepted.unmarked, accepted.visible, accepted.short⟩

theorem stripped?_description {inner : String} (described : profile.description = some inner) :
    stripped? inner = some inner :=
  (accepted.description inner described).stripped?_eq

section Plain

variable (plain : profile.IsPlain)
include plain

theorem ofLine_bare (bare : profile.aliases = []) : ofLine profile.written = .ok profile := by
  cases described : profile.description with
  | none =>
      rw [accepted.ofLine_written_of_bare ⟨described, bare⟩, ← bare]
      exact accepted.new_eq described.symm
  | some inner =>
      have rest : profile.remainder = inner.toList := by rw [remainder, described, bare]
      have uncut : cutFirst aliasMark inner.toList = none :=
        (cutFirst_eq_none_iff aliasMark_ne_nil).2 (plain.description inner described)
      rw [accepted.ofLine_written (by simp [described]), rest, uncut]
      dsimp only
      rw [String.ofList_toList, ← bare]
      apply accepted.new_eq
      rw [Option.bind_some, described, accepted.stripped?_description described]

variable (some_aliases : profile.aliases ≠ [])
include some_aliases

theorem ofLine_undescribed (undescribed : profile.description = none) :
    ofLine profile.written = .ok profile := by
  have rest : profile.remainder = [] ++ (aliasMark ++
      ([',', ' '].intercalate (profile.aliases.map String.toList) ++ [')'])) := by
    rw [remainder, undescribed, List.nil_append]
  have cut : cutFirst aliasMark profile.remainder = some ([],
      [',', ' '].intercalate (profile.aliases.map String.toList) ++ [')']) := by
    rw [cutFirst_eq_some_iff]
    refine ⟨rest, ?_⟩
    intro early late split filled
    exact absurd (List.append_eq_nil_iff.1 split.symm).2 filled
  rw [accepted.ofLine_written (by simp [some_aliases]), cut]
  dsimp only
  rw [readAliases_eq plain some_aliases]
  apply accepted.new_eq
  rw [undescribed]
  decide

theorem ofLine_described {inner : String} (described : profile.description = some inner) :
    ofLine profile.written = .ok profile := by
  have trimmed := accepted.description inner described
  have cut : cutFirst aliasMark profile.remainder = some (inner.toList ++ [' '],
      [',', ' '].intercalate (profile.aliases.map String.toList) ++ [')']) :=
    cutFirst_eq_some_iff.2 ⟨remainder_eq described some_aliases,
      firstAfter_description (plain.description inner described)
        (plain.before_aliases some_aliases inner described) _⟩
  have stripped : stripped? (String.ofList (inner.toList ++ [' '])) = some inner := by
    rw [← accepted.stripped?_description described, stripped?, stripped?, strip, strip,
      String.toList_ofList,
      trim_append_blank trimmed.begins trimmed.ends trimmed.filled (by decide), trimmed.trim_eq]
  rw [accepted.ofLine_written (by simp [some_aliases]), cut]
  dsimp only
  rw [readAliases_eq plain some_aliases]
  apply accepted.new_eq
  rw [Option.bind_some, stripped, described]

end Plain

/-- Where a mark of aliases begins within the description, the description that is read ends
before it. -/
theorem ofLine_ne_of_early {inner : String} {early rest : List Char}
    (described : profile.description = some inner)
    (early_mark : profile.remainder = early ++ (aliasMark ++ rest))
    (short : early.length < inner.toList.length) : ofLine profile.written ≠ .ok profile := by
  intro read
  rw [accepted.ofLine_written (by simp [described])] at read
  cases cut : cutFirst aliasMark profile.remainder with
  | none =>
      rw [cutFirst_eq_none_iff aliasMark_ne_nil] at cut
      exact cut ⟨early, rest, by rw [early_mark, List.append_assoc]⟩
  | some parts =>
      obtain ⟨before, list⟩ := parts
      obtain ⟨split, first⟩ := cutFirst_eq_some_iff.1 cut
      have least := first.length_le (split.symm.trans early_mark)
      rw [cut] at read
      obtain ⟨same, -⟩ := new_eq_ok_iff.1 read
      have found := congrArg Profile.description same
      rw [described] at found
      dsimp only [Option.bind_some] at found
      obtain ⟨trimmed, -⟩ := stripped?_eq_some found.symm
      have shorter := (isInfix_trim before).length_le
      rw [String.toList_ofList] at trimmed
      rw [← trimmed] at shorter
      omega

theorem isPlain_of_ofLine (read : ofLine profile.written = .ok profile) : profile.IsPlain where
  description inner described := by
    rintro ⟨early, more, inside⟩
    obtain ⟨rest, after⟩ := isPrefix_remainder described
    have marked : profile.remainder = early ++ (aliasMark ++ (more ++ rest)) := by
      simp [← after, ← inside]
    have short : early.length < inner.toList.length := by
      have mark := List.length_pos_of_ne_nil aliasMark_ne_nil
      rw [← inside, List.length_append, List.length_append]
      omega
    exact accepted.ofLine_ne_of_early described marked short read
  before_aliases some_aliases inner described := by
    rintro ⟨early, whole⟩
    have marked : profile.remainder = early ++ (aliasMark ++ (aliasMark ++
        ([',', ' '].intercalate (profile.aliases.map String.toList) ++ [')']))) := by
      rw [remainder_eq described some_aliases, ← whole, aliasMark_eq]
      simp
    have short : early.length < inner.toList.length := by
      have mark : aliasMarkStem.length = 9 := by decide
      rw [← whole, List.length_append]
      omega
    exact accepted.ofLine_ne_of_early described marked short read
  aliases synonym member := by
    have more : ¬ (profile.description = none ∧ profile.aliases = []) := fun bare => by
      rw [bare.2] at member
      cases member
    rw [accepted.ofLine_written more] at read
    cases cut : cutFirst aliasMark profile.remainder with
    | none =>
        rw [cut] at read
        rw [(new_eq_ok_iff.1 read).1] at member
        cases member
    | some parts =>
        rw [cut] at read
        rw [(new_eq_ok_iff.1 read).1] at member
        obtain ⟨trimmed, uncut, -⟩ := of_mem_readAliases member
        exact ⟨trimmed.filled, trimmed.trim_eq, uncut⟩

/-- The line of a profile is read as the profile just if nothing in it is misread. -/
theorem ofLine_written_iff : ofLine profile.written = .ok profile ↔ profile.IsPlain := by
  refine ⟨accepted.isPlain_of_ofLine, fun plain => ?_⟩
  by_cases bare : profile.aliases = []
  · exact accepted.ofLine_bare plain bare
  · cases described : profile.description with
    | none => exact accepted.ofLine_undescribed plain bare described
    | some inner => exact accepted.ofLine_described plain bare described

end Accepted

end Profile

end StatelessPgp
