import StatelessPgp.Proofs.Cli.Tasks

/-!
# Acceptance of command lines

A subcommand accepts the command line of its operation unless an argument that it requires is
missing.  The one option that it does not know, it refuses whatever comes with it.
-/

namespace StatelessPgp

open Cli

namespace Operation

variable {operation : Operation} {settings : List Setting} {directory : Path} {name : String}

/-- Settings without which the subcommand of an operation lacks an argument. -/
def demands : Operation → List Setting
  | .mergeCerts | .validateUserId | .verify | .inlineVerify => [.cert []]
  | .certifyUserId => [.userId "", .key []]
  | .sign | .inlineSign => [.key []]
  | _ => []

/-- Whether all is given that the subcommand of an operation requires. -/
def isComplete (operation : Operation) (settings : List Setting) : Bool :=
  operation.demands.all fun kind => settings.any kind.isLike

/-- Nothing is given twice that the subcommand of an operation takes once. -/
def IsSingle (operation : Operation) (settings : List Setting) : Prop :=
  ∀ rule ∈ operation.front.grammar.options, rule.repeatable = false →
    (settings.countP fun setting => operation.argument setting == rule.name) ≤ 1

instance (operation : Operation) (settings : List Setting) :
    Decidable (operation.IsSingle settings) :=
  inferInstanceAs (Decidable (∀ _ ∈ _, _))

theorem IsSingle.of_sublist {fewer : List Setting} (single : operation.IsSingle settings)
    (sublist : fewer.Sublist settings) : operation.IsSingle fewer :=
  fun rule member unrepeatable =>
    (sublist.countP_le).trans (single rule member unrepeatable)

section

variable (offered : ∀ setting ∈ settings, operation.accepts setting = true)
include offered

theorem has_argument (kind : Setting) (accepted : operation.accepts kind = true)
    (later : operation.place kind ≠ .first) :
    (operation.handed directory settings).has (operation.argument kind) =
      settings.any kind.isLike := by
  rw [handed, (means_argument accepted later).has_eq offered]

theorem has_other (other : name ∈ otherArguments) :
    (operation.handed directory settings).has name =
      ((operation.leading settings ++ operation.reported directory settings).any
        fun occurrence => occurrence.argument == name) := by
  rw [handed, Occurrence.has_gather_nil, Occurrence.any_eq_named, named_other offered other,
    Occurrence.any_eq_named, Occurrence.named_append]

/-- What a subcommand lacks is what its operation demands. -/
theorem lacksRequired_handed (directory : Path) {deferred : List Token}
    (completes : operation.deferredFor settings = .ok deferred) :
    operation.front.grammar.lacksRequired (operation.handed directory settings) =
      !operation.isComplete settings := by
  cases operation with
  | mergeCerts =>
      have certs : (mergeCerts.handed directory settings).has "certs" = _ :=
        has_argument offered (.cert []) rfl (by decide)
      simp [Grammar.lacksRequired, front, Subcommand.mergeCerts, flag, isComplete, demands, certs]
  | certifyUserId =>
      have userIds : (certifyUserId.handed directory settings).has "userid" = _ :=
        has_argument offered (.userId "") rfl (by decide)
      have keys : (certifyUserId.handed directory settings).has "keys" = _ :=
        has_argument offered (.key []) rfl (by decide)
      simp [Grammar.lacksRequired, front, Subcommand.certifyUserId, flag, repeated, isComplete,
        demands, userIds, keys, Bool.not_and]
  | validateUserId =>
      have userId : (validateUserId.handed directory settings).has "user-id" = true := by
        rw [has_other offered (by decide), leading]
        rw [deferredFor, deferredTokens] at completes
        cases given : (settings.filterMap Setting.userId?).getLast? with
        | none => simp [given] at completes
        | some text => rfl
      have certs : (validateUserId.handed directory settings).has "authorities" = _ :=
        has_argument offered (.cert []) rfl (by decide)
      simp [Grammar.lacksRequired, front, Subcommand.validateUserId, flag, single, isComplete,
        demands, userId, certs]
  | sign =>
      have keys : (sign.handed directory settings).has "keys" = _ :=
        has_argument offered (.key []) rfl (by decide)
      simp [Grammar.lacksRequired, front, Subcommand.sign, flag, single, repeated, isComplete,
        demands, keys]
  | inlineSign =>
      have keys : (inlineSign.handed directory settings).has "keys" = _ :=
        has_argument offered (.key []) rfl (by decide)
      simp [Grammar.lacksRequired, front, Subcommand.inlineSign, flag, single, repeated,
        isComplete, demands, keys]
  | inlineDetach =>
      have signatures : (inlineDetach.handed directory settings).has "signatures-out" = true :=
        has_other offered (by decide)
      simp [Grammar.lacksRequired, front, Subcommand.inlineDetach, flag, single, isComplete,
        demands, signatures]
  | verify =>
      have signature : (verify.handed directory settings).has "signature" = true := by
        rw [has_other offered (by decide), leading, references_signatures offered rfl,
          List.getLast?_map]
        rw [deferredFor, deferredTokens] at completes
        cases given : (Token.references .signature 0
            (settings.filterMap Setting.signatures?)).getLast? with
        | none => simp [given] at completes
        | some latest => rfl
      have certs : (verify.handed directory settings).has "certs" = _ :=
        has_argument offered (.cert []) rfl (by decide)
      simp [Grammar.lacksRequired, front, Subcommand.verify, single, isComplete, demands,
        signature, certs]
  | inlineVerify =>
      have certs : (inlineVerify.handed directory settings).has "certs" = _ :=
        has_argument offered (.cert []) rfl (by decide)
      simp [Grammar.lacksRequired, front, Subcommand.inlineVerify, single, isComplete, demands,
        certs]
  | _ => rfl

end

/-- What comes first is meant for a positional argument. -/
theorem option_not_leading : ∀ operation ∈ Operation.all,
    ∀ rule ∈ operation.front.grammar.options, rule.name ∉ ["user-id", "signature"] := by
  decide +kernel

theorem countP_leading {rule : OptionRule} (listed : rule ∈ operation.front.grammar.options) :
    ((operation.leading settings).countP fun occurrence => occurrence.argument == rule.name) =
      0 := by
  have apart := option_not_leading operation (mem_all operation) rule listed
  rw [List.countP_eq_zero]
  intro occurrence member same
  apply apart
  rw [← eq_of_beq same]
  cases operation with
  | validateUserId | verify =>
      obtain ⟨text, -, rfl⟩ := List.mem_map.1 member
      simp
  | _ => cases member

/-- Each side channel has an argument of its own. -/
theorem countP_reported (operation : Operation) (directory : Path) (settings : List Setting)
    (name : String) :
    ((operation.reported directory settings).countP fun occurrence =>
      occurrence.argument == name) ≤ 1 := by
  have once : (operation.reported directory settings).map Occurrence.argument =
      ((operation.channelOptions settings).map Prod.snd).map Channel.argument := by
    simp [reported, Function.comp_def]
  have injective : Function.Injective Channel.argument := by
    intro first second same
    cases first <;> cases second <;> first | rfl | simp [Channel.argument] at same
  have distinct : ((operation.reported directory settings).map Occurrence.argument).Nodup := by
    rw [once]
    exact (operation.nodup_channelOptions settings).map injective
  have counted := List.nodup_iff_count_le_one.1 distinct name
  rwa [List.count, List.countP_map] at counted

theorem countP_occurrencesAt (position : Position) (name : String) :
    ((operation.occurrencesAt position settings).countP fun occurrence =>
      occurrence.argument == name) =
      (Contribution.all [] settings).countP fun contribution =>
        (operation.argument contribution.setting == name) &&
          decide (operation.place contribution.setting = position) := by
  rw [occurrencesAt, List.countP_map, List.countP_filter]
  rfl

/-- A setting has words in one place only. -/
theorem countP_inline_rest (name : String) :
    ((operation.occurrencesAt .inline settings).countP fun occurrence =>
        occurrence.argument == name) +
      ((operation.occurrencesAt .rest settings).countP fun occurrence =>
        occurrence.argument == name) ≤
      settings.countP fun setting => operation.argument setting == name := by
  have listed : (settings.countP fun setting => operation.argument setting == name) =
      (Contribution.all [] settings).countP fun contribution =>
        operation.argument contribution.setting == name := by
    conv_lhs => rw [← Contribution.map_setting_all [] settings]
    rw [List.countP_map]
    rfl
  rw [countP_occurrencesAt, countP_occurrencesAt, listed]
  induction Contribution.all [] settings with
  | nil => rfl
  | cons contribution rest hypothesis =>
      simp only [List.countP_cons]
      cases operation.place contribution.setting <;>
        cases operation.argument contribution.setting == name <;> simp <;> omega

/-- The command line of an operation gives nothing twice that its subcommand takes once. -/
theorem admits_occurrences (offered : ∀ setting ∈ settings, operation.accepts setting = true)
    (single : operation.IsSingle settings) (directory : Path) :
    operation.front.grammar.Admits [] (operation.occurrences directory settings) := by
  intro rule listed unrepeatable
  have given := (countP_inline_rest rule.name).trans (single rule listed unrepeatable)
  have reported := operation.countP_reported directory settings rule.name
  have fresh : Arguments.has [] rule.name = false := rfl
  rw [occurrences, List.countP_append, List.countP_append, List.countP_append,
    countP_leading listed, fresh, Bool.toNat_false]
  -- An option is meant by settings or by a side channel, never by both.
  by_cases other : rule.name ∈ otherArguments
  · have none (position : Position) (early : position ≠ .first) :
        ((operation.occurrencesAt position settings).countP fun occurrence =>
          occurrence.argument == rule.name) = 0 := by
      rw [List.countP_eq_zero]
      intro occurrence member same
      exact argument_of_mem_occurrencesAt offered early member (eq_of_beq same ▸ other)
    rw [none .inline (by decide), none .rest (by decide)]
    omega
  · have none : ((operation.reported directory settings).countP fun occurrence =>
        occurrence.argument == rule.name) = 0 := by
      rw [List.countP_eq_zero]
      intro occurrence member same
      exact other (eq_of_beq same ▸ argument_of_mem_reported member)
    omega

/-- The command line of an operation is read as its task. -/
theorem parse_front (offered : ∀ setting ∈ settings, operation.accepts setting = true)
    (single : operation.IsSingle settings) (understood : operation.IsUnderstood settings)
    (directory : Path) {deferred : List Token}
    (completes : operation.deferredFor settings = .ok deferred) :
    operation.front.parse (((operation.inlineTokens settings ++ deferred).map Token.text ++
        (operation.channelOptions settings).map (channelWord directory)).map Text.encode) =
      if operation.isComplete settings then .ok (.operate (operation.task directory settings))
      else .error .missing := by
  obtain ⟨later, next, spells⟩ := spells_occurrences offered understood directory completes
  rw [Subcommand.parse, Grammar.parse_of_spells (isRegular_front operation) spells
    (admits_occurrences offered single directory)]
  have lacks := lacksRequired_handed offered directory completes
  rw [handed] at lacks
  rw [lacks, ← handed]
  cases operation.isComplete settings with
  | false => rfl
  | true => exact congrArg Except.ok (request_handed offered)

/-- The words of settings before the flag that has another name. -/
theorem inlineTokens_noNewMechanisms (before after : List Setting) :
    updateKey.inlineTokens (before ++ .noNewMechanisms :: after) =
      updateKey.inlineTokens before ++ .plain "--no-new-mechanisms" ::
        Piece.tokensAt .inline (updateKey.allPieces before ++ [.word "--no-new-mechanisms"])
          (updateKey.allPieces after) := by
  have split : updateKey.allPieces (before ++ .noNewMechanisms :: after) =
      updateKey.allPieces before ++ (.word "--no-new-mechanisms" :: updateKey.allPieces after) :=
    List.flatMap_append
  rw [inlineTokens, split, Piece.tokensAt_append]
  rfl

/-- The flag that the subcommand does not know by its name is refused. -/
theorem parse_noNewMechanisms
    (offered : ∀ setting ∈ settings, updateKey.accepts setting = true)
    (single : updateKey.IsSingle settings) (plain : ∀ setting ∈ settings, IsPlain setting)
    (given : .noNewMechanisms ∈ settings) (more : List String) :
    updateKey.front.parse (((updateKey.inlineTokens settings).map Token.text ++ more).map
      Text.encode) = .error .unsupported := by
  -- What comes before the first of these flags is understood as it is.
  obtain ⟨before, after, rfl, first⟩ := List.eq_append_cons_of_mem given
  have earlier {setting : Setting} (member : setting ∈ before) :
      setting ∈ before ++ .noNewMechanisms :: after := List.mem_append_left _ member
  have offeredBefore : ∀ setting ∈ before, updateKey.accepts setting = true :=
    fun setting member => offered setting (earlier member)
  have understood : updateKey.IsUnderstood before :=
    ⟨fun setting member => plain setting (earlier member), fun ⟨_, member⟩ => first member⟩
  have spells := spells_inline offeredBefore understood
  have admits := admits_occurrences offeredBefore
    (single.of_sublist (List.sublist_append_left _ _)) []
  rw [occurrences, List.append_assoc, List.append_assoc] at admits
  rw [words_occurrencesAt offeredBefore, ← inlineTokens] at spells
  have unknown : updateKey.front.grammar.option? "no-new-mechanisms" = none := rfl
  have words (first later : List Token) : ((first ++ .plain "--no-new-mechanisms" :: later).map
      Token.text ++ more).map Text.encode =
        (first.map Token.text).map Text.encode ++ Text.encode ("--" ++ "no-new-mechanisms") ::
          (later.map Token.text ++ more).map Text.encode := by
    simp [Token.text]
  rw [inlineTokens_noNewMechanisms, words, Subcommand.parse,
    Grammar.parse_of_unknown (isRegular_front updateKey) spells admits.of_append unknown
      (by decide) (by decide)]
  rfl

end Operation

end StatelessPgp
