import StatelessPgp.Cli.Outcome
import StatelessPgp.Proofs.Profile.Line
import StatelessPgp.Proofs.Traversal

/-!
# Relaying profiles

Profiles that were read from a listing are printed one a line, and each line is cut at the
same places when it is read again.  Only where a description ends like the mark of aliases,
the aliases after it are looked for too early.
-/

namespace StatelessPgp

open Text

namespace Profile

/-- A profile that was read from a line. -/
structure Listed (profile : Profile) : Prop where
  filled : profile.name.toList ≠ []
  unmarked : ':' ∉ profile.name.toList
  visible : ∀ character ∈ profile.name.toList, isBlank character = false
  description : ∀ text, profile.description = some text →
    IsFreeText text.toList ∧ ¬ aliasMark <:+: text.toList
  aliases : ∀ synonym ∈ profile.aliases,
    IsFreeText synonym.toList ∧ ¬ [',', ' '] <:+: synonym.toList
  short : profile.render.utf8ByteSize ≤ maxLineBytes

/-- The description ends like the mark of the aliases that follow it. -/
def IsAmbiguous (profile : Profile) : Prop :=
  profile.aliases ≠ [] ∧ ∃ text, profile.description = some text ∧
    aliasMarkStem <:+ text.toList

instance (profile : Profile) : Decidable profile.IsAmbiguous :=
  decidable_of_iff (profile.aliases ≠ [] ∧
      profile.description.any (aliasMarkStem.isSuffixOf ·.toList) = true) <| by
    rw [IsAmbiguous, Option.any_eq_true]
    simp [List.isSuffixOf_iff_suffix]

variable {profile : Profile} {name : String} {description : Option String}
variable {aliases : List String} {line text list : List Char}

/-- Where it is read from, nothing has been cut out of a description. -/
theorem description_of_stripped {inner : String} (unmarked : ¬ aliasMark <:+: text)
    (whole : '\n' ∉ text) (found : stripped? (String.ofList text) = some inner) :
    IsFreeText inner.toList ∧ ¬ aliasMark <:+: inner.toList := by
  obtain ⟨trimmed, filled⟩ := stripped?_eq_some found
  refine ⟨isFreeText_of_stripped found (by rwa [String.toList_ofList]), ?_⟩
  rw [trimmed, String.toList_ofList]
  exact fun inside => unmarked (inside.trans (isInfix_trim text))

theorem listed_of_new (made : new name description aliases = .ok profile)
    (described : ∀ inner, description.bind stripped? = some inner →
      IsFreeText inner.toList ∧ ¬ aliasMark <:+: inner.toList)
    (synonyms : ∀ synonym ∈ aliases,
      IsFreeText synonym.toList ∧ ¬ [',', ' '] <:+: synonym.toList) : profile.Listed := by
  obtain ⟨rfl, filled, unmarked, visible, short⟩ := new_eq_ok_iff.1 made
  exact ⟨filled, unmarked, visible, described, synonyms, short⟩

theorem listed_of_ofLine (read : ofLine line = .ok profile) (whole : '\n' ∉ line) :
    profile.Listed := by
  have whole : '\n' ∉ trim line := fun member => whole (mem_of_mem_trim member)
  rw [ofLine] at read
  dsimp only at read
  cases cut : cutFirst [':', ' '] (trim line) with
  | none =>
      rw [cut] at read
      refine listed_of_new read (fun inner found => ?_) (fun synonym member => ?_)
      · cases found
      · cases member
  | some parts =>
      obtain ⟨before, after⟩ := parts
      rw [cut] at read
      dsimp only at read
      obtain ⟨split, -⟩ := cutFirst_eq_some_iff.1 cut
      have wholeRest : '\n' ∉ trim after := by
        intro member
        apply whole
        rw [split]
        simp [mem_of_mem_trim member]
      cases marked : cutFirst aliasMark (trim after) with
      | none =>
          rw [marked] at read
          dsimp only at read
          have absent := (cutFirst_eq_none_iff aliasMark_ne_nil).1 marked
          refine listed_of_new read (fun inner found => ?_) (fun synonym member => ?_)
          · rw [Option.bind_some] at found
            exact description_of_stripped absent wholeRest found
          · cases member
      | some parts =>
          obtain ⟨text, list⟩ := parts
          rw [marked] at read
          dsimp only at read
          obtain ⟨pieces, first⟩ := cutFirst_eq_some_iff.1 marked
          have wholeText : '\n' ∉ text := by
            intro member
            apply wholeRest
            rw [pieces]
            simp [member]
          have wholeList : '\n' ∉ list := by
            intro member
            apply wholeRest
            rw [pieces]
            simp [member]
          refine listed_of_new read ?_ fun synonym member => ?_
          · intro inner found
            rw [Option.bind_some] at found
            exact description_of_stripped (first.not_infix aliasMark_ne_nil) wholeText found
          · obtain ⟨⟨filled, begins, ends⟩, uncut, inside⟩ := of_mem_readAliases member
            exact ⟨⟨filled, begins, ends, fun lineFeed => wholeList (inside lineFeed)⟩, uncut⟩

namespace Listed

variable (listed : profile.Listed)
include listed

theorem accepted : profile.Accepted where
  filled := listed.filled
  unmarked := listed.unmarked
  visible := listed.visible
  description text described := (listed.description text described).1.trimmed
  short := listed.short

/-- What was read from a line can only be misread where a description ends like the mark. -/
theorem isPlain_iff : profile.IsPlain ↔ ¬ profile.IsAmbiguous := by
  constructor
  · rintro plain ⟨some_aliases, text, described, ends⟩
    exact plain.before_aliases some_aliases text described ends
  · intro unambiguous
    refine ⟨fun text described => (listed.description text described).2, ?_, ?_⟩
    · intro some_aliases text described ends
      exact unambiguous ⟨some_aliases, text, described, ends⟩
    · intro synonym member
      obtain ⟨free, uncut⟩ := listed.aliases synonym member
      exact ⟨free.filled, free.trimmed.trim_eq, uncut⟩

theorem lineFeed_not_mem_remainder : '\n' ∉ profile.remainder := by
  have aliases : '\n' ∉ [',', ' '].intercalate (profile.aliases.map String.toList) := by
    apply not_mem_intercalate (by decide)
    rw [List.forall_mem_map]
    exact fun synonym member => (listed.aliases synonym member).1.whole
  have ending : '\n' ∉ aliasMark ++
      ([',', ' '].intercalate (profile.aliases.map String.toList) ++ [')']) := by
    rw [List.mem_append, not_or]
    exact ⟨by decide, by simpa using aliases⟩
  rw [remainder]
  split
  · exact ending
  · next described _ => exact (listed.description _ described).1.whole
  · next described _ =>
      rw [List.mem_append, List.mem_cons, not_or, not_or]
      exact ⟨(listed.description _ described).1.whole, by decide, ending⟩

theorem lineFeed_not_mem_written : '\n' ∉ profile.written := by
  have name : '\n' ∉ profile.name.toList := fun member => by
    cases listed.visible _ member
  rw [written_eq]
  split
  · exact name
  · rw [List.mem_append, List.mem_append, not_or, not_or]
    exact ⟨name, by decide, listed.lineFeed_not_mem_remainder⟩

/-- The line of a profile is read as the profile unless its description is misread. -/
theorem ofLine_written_iff : ofLine profile.written = .ok profile ↔ ¬ profile.IsAmbiguous :=
  listed.accepted.ofLine_written_iff.trans listed.isPlain_iff

end Listed

theorem toList_inLines (profiles : List Profile) :
    (Cli.inLines (profiles.map render)).toList =
      (profiles.map written).flatMap (· ++ ['\n']) := by
  rw [Cli.inLines, String.toList_join, List.map_map, List.flatMap_map, List.flatMap_map]
  simp [render]

theorem listed_of_parseAll {text : String} {profiles : List Profile}
    (accepted : parseAll text = .ok profiles) : ∀ profile ∈ profiles, profile.Listed := by
  have read := mapM_eq_ok_iff.1 accepted
  intro profile member
  obtain ⟨line, inside, reads⟩ := exists_of_forall₂ read.flip member
  exact listed_of_ofLine reads (lineFeed_not_mem_filledLine inside)

/-- A printed listing is read line by line. -/
theorem parseAll_inLines {profiles : List Profile}
    (listed : ∀ profile ∈ profiles, profile.Listed) :
    parseAll (Cli.inLines (profiles.map render)) = profiles.mapM (ofLine ·.written) := by
  have lines : filledLines (Cli.inLines (profiles.map render)).toList =
      profiles.map written := by
    rw [toList_inLines]
    apply filledLines_joined <;> rw [List.forall_mem_map] <;> intro profile member
    · exact (listed profile member).lineFeed_not_mem_written
    · exact (listed profile member).accepted.isTrimmed_written.begins
    · exact (listed profile member).accepted.isTrimmed_written.ends
    · exact (listed profile member).accepted.isTrimmed_written.filled
  rw [parseAll, lines, List.mapM_map]
  rfl

end Profile

/-- A listing that was read can be printed and read again, and yields the same profiles, just
if none of them has aliases after a description that ends like the mark of aliases. -/
theorem relayed_profiles_survive {text : String} {profiles : List Profile}
    (accepted : Profile.parseAll text = .ok profiles) :
    Profile.parseAll (Cli.inLines (profiles.map Profile.render)) = .ok profiles ↔
      ∀ profile ∈ profiles, ¬ profile.IsAmbiguous := by
  have listed := Profile.listed_of_parseAll accepted
  rw [Profile.parseAll_inLines listed, mapM_eq_ok_iff, List.forall₂_same]
  exact forall₂_congr fun profile member => (listed profile member).ofLine_written_iff

/-- A missing bracket, items with commas at their ends, and a description that ends almost
like the mark are relayed. -/
theorem loose_listing_is_relayed :
    let text := " \u0085default:  Best\tone (aliases (aliases: a,, b), , \u00a0c,)) \r\n\n" ++
      "rfc4880:\n\tx: (aliases: y"
    let profiles : List Profile := [⟨"default", some "Best\tone (aliases", ["a,", "b)", "c,)"]⟩,
      ⟨"rfc4880", none, []⟩, ⟨"x", none, ["y"]⟩]
    Profile.parseAll text = .ok profiles ∧ (∀ profile ∈ profiles, ¬ profile.IsAmbiguous) ∧
      Cli.inLines (profiles.map Profile.render) =
        "default: Best\tone (aliases (aliases: a,, b), c,))\nrfc4880\nx: (aliases: y)\n" ∧
      Profile.parseAll (Cli.inLines (profiles.map Profile.render)) = .ok profiles := by
  intro text profiles
  have accepted : Profile.parseAll text = .ok profiles := by decide +kernel
  have plain : ∀ profile ∈ profiles, ¬ profile.IsAmbiguous := by decide +kernel
  exact ⟨accepted, plain, by decide +kernel, (relayed_profiles_survive accepted).2 plain⟩

/-- A description that ends like the mark of aliases is cut there when it is read again. -/
theorem description_like_mark_is_misread :
    let text := "p: foo (aliases:\t(aliases: a)"
    let profile : Profile := ⟨"p", some "foo (aliases:", ["a"]⟩
    let misread : Profile := ⟨"p", some "foo", ["(aliases: a"]⟩
    Profile.parseAll text = .ok [profile] ∧
      Profile.parseAll (Cli.inLines ([profile].map Profile.render)) = .ok [misread] ∧
      misread ≠ profile := by
  decide +kernel

end StatelessPgp
