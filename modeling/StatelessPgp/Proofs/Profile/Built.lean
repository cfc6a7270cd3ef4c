import StatelessPgp.Proofs.Profile.Line

/-!
# Profiles that are put together

A profile that is made from a name, a description and aliases is read back from its line just
if neither the description nor an alias holds what separates them there.
-/

namespace StatelessPgp

open Text

namespace Profile

instance (profile : Profile) : Decidable profile.IsPlain :=
  decidable_of_iff
    ((∀ text ∈ profile.description, ¬ aliasMark <:+: text.toList) ∧
      (profile.aliases ≠ [] → ∀ text ∈ profile.description, ¬ aliasMarkStem <:+ text.toList) ∧
      ∀ synonym ∈ profile.aliases, synonym.toList ≠ [] ∧ trim synonym.toList = synonym.toList ∧
        ¬ [',', ' '] <:+: synonym.toList)
    ⟨fun ⟨description, before_aliases, aliases⟩ => ⟨description, before_aliases, aliases⟩,
      fun plain => ⟨plain.description, plain.before_aliases, plain.aliases⟩⟩

theorem parse_render (profile : Profile) : parse profile.render = ofLine profile.written := by
  rw [parse, render, String.toList_ofList]

end Profile

/-- A profile is read back from its line just if it is plain: its description does not hold the
mark of aliases, nor does it end like the mark if aliases follow, and every alias is trimmed,
not empty and without the separator of the list.  A line that is refused is too long when it is
written again, and belongs to a profile that is not plain. -/
theorem built_profiles_are_read_back {name : String} {description : Option String}
    {aliases : List String} {profile : Profile}
    (made : Profile.new name description aliases = .ok profile) :
    profile = ⟨name, description.bind stripped?, aliases⟩ ∧
      (Profile.parse profile.render = .ok profile ↔ profile.IsPlain) ∧
      ∀ failure, Profile.parse profile.render = .error failure →
        failure = Profile.lineTooLong ∧ ¬ profile.IsPlain := by
  have accepted := Profile.accepted_of_new made
  rw [Profile.parse_render]
  refine ⟨(Profile.new_eq_ok_iff.1 made).1, accepted.ofLine_written_iff, ?_⟩
  intro failure refused
  refine ⟨accepted.ofLine_written_eq_error refused, fun plain => ?_⟩
  rw [accepted.ofLine_written_iff.2 plain] at refused
  cases refused

/-- Commas and brackets at the ends of aliases, and line feeds, do no harm, unlike an alias that
begins with a blank. -/
theorem loose_profile_is_read_back :
    let description := " (aliases \n (aliases:x \t"
    let plain : Profile := ⟨"p", some "(aliases \n (aliases:x", ["a,", "b\nc)", ")"]⟩
    let untrimmed : Profile := ⟨"p", some "(aliases \n (aliases:x", [" a"]⟩
    Profile.new "p" (some description) ["a,", "b\nc)", ")"] = .ok plain ∧ plain.IsPlain ∧
      Profile.parse plain.render = .ok plain ∧
      Profile.new "p" (some description) [" a"] = .ok untrimmed ∧ ¬ untrimmed.IsPlain ∧
      Profile.parse untrimmed.render ≠ .ok untrimmed := by
  intro description plain untrimmed
  have made : Profile.new "p" (some description) ["a,", "b\nc)", ")"] = .ok plain := by
    decide +kernel
  have isPlain : plain.IsPlain := by decide +kernel
  have other : Profile.new "p" (some description) [" a"] = .ok untrimmed := by decide +kernel
  have isNotPlain : ¬ untrimmed.IsPlain := by decide +kernel
  exact ⟨made, isPlain, (built_profiles_are_read_back made).2.1.2 isPlain, other, isNotPlain,
    fun read => isNotPlain ((built_profiles_are_read_back other).2.1.1 read)⟩

end StatelessPgp
