import StatelessPgp.Proofs.Cli.Counterpart

/-!
# Command lines handed over

The command line of an operation spells an argument for each of its settings and each of its
side channels, in the order in which the subcommand of the same name expects them.  A setting
that is replaced by a later one leaves no words.
-/

namespace StatelessPgp

open Cli

namespace Contribution

/-- The references to the secrets of the settings of one kind, in their order. -/
def references (kind : Setting) (settings : List Setting) : List String :=
  ((all [] settings).filter fun contribution => kind.isLike contribution.setting).filterMap
    fun contribution => contribution.binding?.map Binding.reference

end Contribution

/-- The argument of a subcommand for the path of a side channel. -/
def Channel.argument : Channel → String
  | .micAlg => "micalg-out"
  | .signatures => "signatures-out"
  | .verifications => "verifications-out"
  | .sessionKey => "session-key-out"

namespace Operation

variable {operation : Operation} {position : Position} {settings : List Setting}

/-- The path of a side channel, as the command line mentions it. -/
def channelPath (directory : Path) (channel : Channel) : String :=
  (directory.join (Path.ofText channel.fileName)).display

/-- The settings with words for a position as occurrences. -/
def occurrencesAt (operation : Operation) (position : Position) (settings : List Setting) :
    List Occurrence :=
  ((Contribution.all [] settings).filter fun contribution =>
    decide (operation.place contribution.setting = position)).map
      (Contribution.occurrence operation)

/-- The latest of the settings that replace each other, as an occurrence. -/
def leading (operation : Operation) (settings : List Setting) : List Occurrence :=
  match operation with
  | .validateUserId =>
      (settings.filterMap Setting.userId?).getLast?.toList.map fun text =>
        ⟨[text], "user-id", [text]⟩
  | .verify =>
      (Contribution.references (.signatures []) settings).getLast?.toList.map
        fun text => ⟨[text], "signature", [text]⟩
  | _ => []

/-- The side channels as occurrences. -/
def reported (operation : Operation) (directory : Path) (settings : List Setting) :
    List Occurrence :=
  (operation.channelOptions settings).map fun option =>
    ⟨[channelWord directory option], option.2.argument, [channelPath directory option.2]⟩

/-- All that the command line of an operation spells. -/
def occurrences (operation : Operation) (directory : Path) (settings : List Setting) :
    List Occurrence :=
  operation.occurrencesAt .inline settings ++ operation.leading settings ++
    operation.occurrencesAt .rest settings ++ operation.reported directory settings

section

variable (offered : ∀ setting ∈ settings, operation.accepts setting = true)
include offered

theorem words_occurrencesAt (position : Position) :
    (operation.occurrencesAt position settings).flatMap Occurrence.words =
      (Piece.tokensAt position [] (operation.allPieces settings)).map Token.text := by
  have texts := map_tokensAt [] offered position
  rw [occurrencesAt, List.flatMap_map]
  exact texts.symm

/-- Detached signatures are referred to in their order. -/
theorem references_signatures (only : operation = .verify) :
    Contribution.references (.signatures []) settings =
      (Token.references .signature 0 (settings.filterMap Setting.signatures?)).map
        Token.text := by
  subst only
  have held := holds_signatures.tokensAt_eq [] settings
  rw [ordinal_nil] at held
  have first (contribution : Contribution) :
      decide (verify.place contribution.setting = .first) =
        Setting.isLike (.signatures []) contribution.setting := by
    cases contribution.setting <;> rfl
  have bare (contribution : Contribution)
      (signed : Setting.isLike (.signatures []) contribution.setting = true) :
      contribution.words verify =
        (contribution.binding?.map Binding.reference).toList := by
    obtain ⟨before, setting⟩ := contribution
    cases setting with
    | signatures secret =>
        simp [Contribution.words, pieces, only, Piece.token, Token.text, Contribution.binding?,
          Setting.sealed?, Setting.category?, Setting.secret?]
    | _ => cases signed
  have texts := map_tokensAt [] offered .first
  rw [← held]
  refine Eq.trans ?_ texts.symm
  rw [Contribution.references, List.filterMap_eq_flatMap_toList]
  simp only [first]
  apply List.flatMap_congr
  intro contribution member
  exact (bare contribution (List.mem_filter.1 member).2).symm

theorem words_deferred {deferred : List Token}
    (completes : operation.deferredFor settings = .ok deferred) :
    deferred.map Token.text =
      (if operation = .certifyUserId then ["--"] else []) ++
        (operation.leading settings).flatMap Occurrence.words ++
        (operation.occurrencesAt .rest settings).flatMap Occurrence.words := by
  rw [words_occurrencesAt offered]
  cases operation with
  | certifyUserId =>
      cases completes
      rw [holds_certifyUserId.tokensAt_eq, ordinal_nil]
      rfl
  | validateUserId =>
      rw [(holds_certs (.inl rfl)).tokensAt_eq, ordinal_nil]
      rw [deferredFor, deferredTokens] at completes
      rw [leading]
      cases given : (settings.filterMap Setting.userId?).getLast? with
      | none => simp [given] at completes
      | some userId =>
          rw [given] at completes
          cases completes
          rfl
  | verify =>
      rw [(holds_certs (.inr rfl)).tokensAt_eq, ordinal_nil]
      rw [deferredFor, deferredTokens] at completes
      rw [leading, references_signatures offered rfl, List.getLast?_map]
      cases given : (Token.references .signature 0
          (settings.filterMap Setting.signatures?)).getLast? with
      | none => simp [given] at completes
      | some latest =>
          rw [given] at completes
          cases completes
          rfl
  | _ =>
      cases completes
      rw [tokensAt_eq_nil_of_unused (by rfl)]
      rfl

/-- What is read as it is meant: no user ID looks like an option, and the one flag with two
names is not set. -/
structure IsUnderstood (operation : Operation) (settings : List Setting) : Prop where
  plain : ∀ setting ∈ settings, IsPlain setting
  known : ¬ (operation = .updateKey ∧ .noNewMechanisms ∈ settings)

omit offered in
theorem of_mem_occurrencesAt {occurrence : Occurrence}
    (member : occurrence ∈ operation.occurrencesAt position settings) :
    ∃ contribution : Contribution, contribution.setting ∈ settings ∧
      operation.place contribution.setting = position ∧
      occurrence = contribution.occurrence operation := by
  obtain ⟨contribution, inside, rfl⟩ := List.mem_map.1 member
  obtain ⟨listed, goes⟩ := List.mem_filter.1 inside
  exact ⟨contribution, (Contribution.of_mem_all listed).1, of_decide_eq_true goes, rfl⟩

theorem spells_inline (understood : operation.IsUnderstood settings) :
    operation.front.grammar.Spells false 0
      ((operation.occurrencesAt .inline settings).flatMap Occurrence.words)
      (operation.occurrencesAt .inline settings) false 0 := by
  apply Grammar.Spells.of_fits
  intro occurrence member
  obtain ⟨contribution, listed, goes, rfl⟩ := of_mem_occurrencesAt member
  refine fits_inline (offered _ listed) goes ?_ (understood.plain _ listed)
  rintro ⟨same, renamed⟩
  exact understood.known ⟨same, renamed ▸ listed⟩

omit offered in
theorem fits_channel {option : String × Channel}
    (listed : option ∈ operation.channelOptions settings) (text : String) :
    operation.front.grammar.Fits false 0
      ⟨[option.1 ++ "=" ++ text], option.2.argument, [text]⟩ 0 := by
  cases operation with
  | sign | inlineDetach | inlineVerify | encrypt =>
      obtain rfl := List.mem_singleton.1 listed
      exact .ofAttached rfl rfl rfl nofun (Cli.allows_read rfl)
  | decrypt =>
      rcases List.mem_cons.1 listed with rfl | listed
      · exact .ofAttached rfl rfl rfl nofun (Cli.allows_read rfl)
      · split at listed
        · obtain rfl := List.mem_singleton.1 listed
          have known : decrypt.front.grammar.option? "verify-out" =
              some { single String "verifications-out" with aliases := ["verify-out"] } := rfl
          exact .attached known nofun (Cli.allows_read rfl)
        · cases listed
  | _ => cases listed

omit offered in
theorem spells_reported (directory : Path) :
    operation.front.grammar.Spells false 0
      ((operation.channelOptions settings).map (channelWord directory))
      (operation.reported directory settings) false 0 := by
  have words : (operation.channelOptions settings).map (channelWord directory) =
      (operation.reported directory settings).flatMap Occurrence.words := by
    rw [reported, List.flatMap_map, List.map_eq_flatMap]
  rw [words]
  apply Grammar.Spells.of_fits
  intro occurrence member
  obtain ⟨option, listed, rfl⟩ := List.mem_map.1 member
  exact fits_channel listed _

omit offered in
theorem reference_of_mem {kind : Setting} {text : String}
    (member : text ∈ Contribution.references kind settings) :
    text.toList.head? ≠ some '-' := by
  obtain ⟨contribution, -, given⟩ := List.mem_filterMap.1 member
  obtain ⟨binding, -, rfl⟩ := Option.map_eq_some_iff.1 given
  exact binding.reference_plain

theorem fits_leading (understood : operation.IsUnderstood settings)
    (ends : operation = .validateUserId ∨ operation = .verify) {deferred : List Token}
    (completes : operation.deferredFor settings = .ok deferred) :
    ∃ occurrence, operation.leading settings = [occurrence] ∧
      operation.front.grammar.Fits false 0 occurrence 1 := by
  rw [deferredFor] at completes
  rcases ends with rfl | rfl
  · rw [deferredTokens] at completes
    rw [leading]
    cases given : (settings.filterMap Setting.userId?).getLast? with
    | none => simp [given] at completes
    | some text =>
        refine ⟨_, rfl, .ofSinglePositional rfl rfl rfl ?_⟩
        obtain ⟨setting, listed, held⟩ := List.mem_filterMap.1 (List.mem_of_getLast? given)
        have plain := understood.plain setting listed
        cases setting with
        | userId =>
            cases held
            exact plain
        | _ => cases held
  · rw [deferredTokens] at completes
    have same := congrArg List.getLast? (references_signatures offered rfl)
    rw [List.getLast?_map] at same
    rw [leading]
    cases given : (Token.references .signature 0
        (settings.filterMap Setting.signatures?)).getLast? with
    | none => simp [given] at completes
    | some latest =>
        rw [given] at same
        rw [same]
        exact ⟨_, rfl, .ofSinglePositional rfl rfl rfl
          (reference_of_mem (List.mem_of_getLast? same))⟩

/-- What comes after the words in their place. -/
theorem spells_tail (understood : operation.IsUnderstood settings) (directory : Path)
    {deferred : List Token} (completes : operation.deferredFor settings = .ok deferred) :
    ∃ later next, operation.front.grammar.Spells false 0
      (deferred.map Token.text ++
        (operation.channelOptions settings).map (channelWord directory))
      (operation.leading settings ++ operation.occurrencesAt .rest settings ++
        operation.reported directory settings) later next := by
  have words := words_deferred offered completes
  have accepted {occurrence : Occurrence}
      (member : occurrence ∈ operation.occurrencesAt .rest settings) :
      ∃ contribution : Contribution, operation.accepts contribution.setting = true ∧
        operation.place contribution.setting = .rest ∧
        occurrence = contribution.occurrence operation := by
    obtain ⟨contribution, listed, goes, same⟩ := of_mem_occurrencesAt member
    exact ⟨contribution, offered _ listed, goes, same⟩
  -- Words are put off after hyphens alone, after a positional argument, or not at all.
  by_cases certifies : operation = .certifyUserId
  · subst certifies
    have last : certifyUserId.front.grammar.Spells true 0 _ _ true 0 :=
      .of_fits fun occurrence member => by
        obtain ⟨contribution, offers, goes, rfl⟩ := accepted member
        exact fits_keys offers goes
    refine ⟨true, 0, ?_⟩
    rw [words]
    simpa [leading, reported, channelOptions] using last.separator
  by_cases ends : operation = .validateUserId ∨ operation = .verify
  · have last : operation.front.grammar.Spells false 1 _ _ false 1 :=
      .of_fits fun occurrence member => by
        obtain ⟨contribution, offers, goes, rfl⟩ := accepted member
        exact fits_certs ends offers goes
    obtain ⟨occurrence, alone, fits⟩ := fits_leading offered understood ends completes
    refine ⟨false, 1, ?_⟩
    have channels : operation.channelOptions settings = [] := by
      rcases ends with rfl | rfl <;> rfl
    rw [words, alone, reported, channels, if_neg certifies]
    simpa using Grammar.Spells.cons fits last
  · have none : operation.leading settings = [] := by
      cases operation with
      | validateUserId => exact absurd (.inl rfl) ends
      | verify => exact absurd (.inr rfl) ends
      | _ => rfl
    have rest : operation.occurrencesAt .rest settings = [] := by
      rw [List.eq_nil_iff_forall_not_mem]
      intro occurrence member
      obtain ⟨⟨before, setting⟩, -, goes, -⟩ := accepted member
      cases setting with
      | key => simp [place, certifies] at goes
      | cert => simp [place, ends] at goes
      | userId => cases operation <;> cases goes
      | _ => cases goes
    refine ⟨false, 0, ?_⟩
    rw [words, none, rest, if_neg certifies]
    exact spells_reported directory

/-- The command line of an operation spells its settings and its side channels. -/
theorem spells_occurrences (understood : operation.IsUnderstood settings) (directory : Path)
    {deferred : List Token} (completes : operation.deferredFor settings = .ok deferred) :
    ∃ later next, operation.front.grammar.Spells false 0
      ((operation.inlineTokens settings ++ deferred).map Token.text ++
        (operation.channelOptions settings).map (channelWord directory))
      (operation.occurrences directory settings) later next := by
  obtain ⟨later, next, tail⟩ := spells_tail offered understood directory completes
  refine ⟨later, next, ?_⟩
  have spelled := (spells_inline offered understood).append tail
  rw [words_occurrencesAt offered] at spelled
  rw [occurrences, List.map_append, List.append_assoc, List.append_assoc, List.append_assoc]
  rwa [List.append_assoc] at spelled

end

end Operation

end StatelessPgp
