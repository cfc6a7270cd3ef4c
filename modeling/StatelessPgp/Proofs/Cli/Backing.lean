import StatelessPgp.Cli.Invocation
import StatelessPgp.Proofs.Cli.Acceptance

/-!
# The command line as a backend

What an operation or an inquiry asks of a backend, the command line itself understands: it
finds the same subcommand with the same values in the same order.  It refuses a command line
that lacks what it requires, and it has no option of the name under which an operation asks
for no new mechanisms.
-/

namespace StatelessPgp

open Cli

variable {lookup : String → Option Bytes} {subcommand : Subcommand} {word : String}

namespace Cli.Invocation

/-- A command line that begins with a subcommand has its options from the environment. -/
theorem parse_subcommand (named : Subcommand.named? (Text.encode word) = some subcommand)
    (helpless : word ≠ "help") (words : List Bytes) :
    parse lookup (Text.encode word :: words) =
      (subcommand.parse words).bind fun request =>
        (complete lookup []).map fun arguments => ⟨configOf arguments, request⟩ := by
  have other : (Text.encode word == helpWord) = false := by
    rw [beq_eq_false_iff_ne, helpWord]
    intro same
    apply helpless
    rw [← Option.some_inj, ← Text.decode?_encode word, same, Text.decode?_encode]
  have step : advance {} (Text.encode word :: words) =
      (subcommand.parse words).map fun request => ({}, some request) := by
    simp [advance, other, named]
  rw [parse, step]
  cases subcommand.parse words with
  | error refusal => rfl
  | ok request =>
      have idle : grammar.settle {} = .ok {} := rfl
      simp only [Except.map, Except.bind, bind, idle]
      cases complete lookup [] <;> rfl

end Cli.Invocation

theorem Operation.subcommand_ne_help (operation : Operation) : operation.subcommand ≠ "help" := by
  cases operation <;> decide

/-- A query for a version is understood, and one without an option as one for all of it. -/
theorem VersionQuery.parse_option? (query : VersionQuery) :
    Subcommand.version.parse (query.option?.toList.map Text.encode) =
      .ok (.inquire (.version (query.option?.map fun _ => query))) := by
  cases query <;> decide

/-- The name of a subcommand is handed over. -/
theorem Cli.Subcommand.parse_listProfiles {name : String} (plain : name.toList.head? ≠ some '-') :
    Subcommand.listProfiles.parse [Text.encode name] = .ok (.inquire (.profiles name)) := by
  have regular : Subcommand.listProfiles.grammar.IsRegular := by
    constructor <;> decide
  have spells : Subcommand.listProfiles.grammar.Spells false 0 [name]
      [⟨[name], "subcommand", [name]⟩] false 1 := by
    have fits : Subcommand.listProfiles.grammar.Fits false 0 ⟨[name], "subcommand", [name]⟩ 1 :=
      .ofSinglePositional rfl rfl rfl plain
    exact .cons fits .nil
  have admits : Subcommand.listProfiles.grammar.Admits [] [⟨[name], "subcommand", [name]⟩] :=
    nofun
  have given : ((Occurrence.gather [] [⟨[name], "subcommand", [name]⟩]).value? "subcommand" :
      Option String) = some name :=
    Occurrence.value?_gather
  rw [Subcommand.parse, ← List.map_singleton, Grammar.parse_of_spells regular spells admits]
  have read : Subcommand.listProfiles.request
      (Occurrence.gather [] [⟨[name], "subcommand", [name]⟩]) = .inquire (.profiles name) := by
    simp only [Subcommand.listProfiles, Arguments.required, given, Option.getD_some]
  exact congrArg Except.ok read

namespace Operation

variable {operation : Operation} {host : Host} {config : Config} {settings : List Setting}
  {input : Bytes} {files left : FileTree} {ready : Ready operation}

/-- An operation that has been made ready had all words that it cannot do without. -/
theorem deferredFor_of_prepare
    (prepared : operation.prepare host config settings input files = (.ok ready, left)) :
    ∃ deferred, operation.deferredFor settings = .ok deferred := by
  obtain ⟨completed, reserved, channels, complete, -, -⟩ := prepare_ok prepared
  rw [complete_draft] at complete
  cases completes : operation.deferredFor settings with
  | error failure => simp [completes, Except.map] at complete
  | ok deferred => exact ⟨deferred, rfl⟩

/-- The words after the subcommand of an operation that has been made ready. -/
theorem words_prepare {deferred : List Token}
    (completes : operation.deferredFor settings = .ok deferred)
    (prepared : operation.prepare host config settings input files = (.ok ready, left)) :
    ready.command.arguments = operation.subcommand ::
      ((operation.inlineTokens settings ++ deferred).map Token.text ++
        (operation.channelOptions settings).map
          (channelWord (ready.channels.directory.getD []))) := by
  obtain ⟨directory, opened, vector⟩ := vector_prepare completes prepared
  rw [Command.vector] at vector
  rw [(List.cons.inj vector).2]
  -- Without side channels there is no directory, and none is mentioned.
  by_cases needed : operation.channelOptions settings = []
  · rw [needed, List.map_nil, List.map_nil]
  · rw [opened needed, Option.getD_some]

theorem secrets_prepare (offered : ∀ setting ∈ settings, operation.accepts setting = true)
    (prepared : operation.prepare host config settings input files = (.ok ready, left)) :
    ready.command.secrets =
      (Contribution.all [] settings).filterMap Contribution.binding? := by
  rw [prepare_secrets prepared, draft_eq, bindings]
  exact filterMap_binding?_tokens [] offered

/-- What the words of an operation are read as after its subcommand. -/
theorem parse_prepare (offered : ∀ setting ∈ settings, operation.accepts setting = true)
    (single : operation.IsSingle settings) (plain : ∀ setting ∈ settings, IsPlain setting)
    (prepared : operation.prepare host config settings input files = (.ok ready, left)) :
    operation.front.parse (ready.command.words.map Text.encode) =
      if operation = .updateKey ∧ .noNewMechanisms ∈ settings then .error .unsupported
      else if operation.isComplete settings then
        .ok (.operate (operation.task (ready.channels.directory.getD []) settings))
      else .error .missing := by
  obtain ⟨deferred, completes⟩ := deferredFor_of_prepare prepared
  have words := words_prepare completes prepared
  rw [Command.arguments] at words
  rw [(List.cons.inj words).2]
  split
  · next renamed =>
      obtain ⟨rfl, given⟩ := renamed
      cases completes
      rw [List.append_nil]
      exact parse_noNewMechanisms offered single plain given _
  · next known => exact parse_front offered single ⟨plain, known⟩ _ completes

end Operation

namespace Cli

/-- The command line understands what operations and inquiries ask of a backend.  Let an
operation be given settings of its own, none of them twice that may be given once, and no user
ID that looks like an option; when it has been made ready, its words are read as the same
operation with the values of all settings in their order, where each secret has a reference of
its own.  The exceptions are that a required argument may be missing and that there is no
option of the name under which an operation asks for no new mechanisms.  Inquiries are read as
themselves. -/
theorem command_line_understands_its_callers (lookup : String → Option Bytes)
    (host : Host) (config : Config) :
    let understood request := (Invocation.complete lookup []).map fun arguments =>
      (⟨Invocation.configOf arguments, request⟩ : Invocation)
    (∀ (operation : Operation) (settings : List Setting) (input : Bytes)
        (files left : FileTree) (ready : Ready operation),
      (∀ setting ∈ settings, operation.accepts setting = true) →
      operation.IsSingle settings →
      (∀ setting ∈ settings, Operation.IsPlain setting) →
      operation.prepare host config settings input files = (.ok ready, left) →
      ready.command.secrets =
          (Contribution.all [] settings).filterMap Contribution.binding? ∧
        Invocation.parse lookup (ready.command.arguments.map Text.encode) =
          if operation = .updateKey ∧ .noNewMechanisms ∈ settings then .error .unsupported
          else if operation.isComplete settings then
            understood (.operate (operation.task (ready.channels.directory.getD []) settings))
          else .error .missing) ∧
    (∀ query : VersionQuery,
      Invocation.parse lookup
          ((inquiry config "version" query.option?.toList).arguments.map Text.encode) =
        understood (.inquire (.version (query.option?.map fun _ => query)))) ∧
    ∀ name : String, name.toList.head? ≠ some '-' →
      Invocation.parse lookup
          ((inquiry config "list-profiles" [name]).arguments.map Text.encode) =
        understood (.inquire (.profiles name)) := by
  intro understood
  refine ⟨?operations, ?versions, ?profiles⟩
  case operations =>
      intro operation settings input files left ready offered single plain prepared
      refine ⟨Operation.secrets_prepare offered prepared, ?_⟩
      obtain ⟨deferred, completes⟩ := Operation.deferredFor_of_prepare prepared
      have subcommand : ready.command.subcommand = operation.subcommand :=
        (List.cons.inj (Operation.words_prepare completes prepared)).1
      rw [Command.arguments, List.map_cons, subcommand,
        Invocation.parse_subcommand operation.named?_front operation.subcommand_ne_help,
        Operation.parse_prepare offered single plain prepared]
      split
      · rfl
      · split <;> rfl
  case versions =>
      intro query
      have named : Subcommand.named? (Text.encode "version") = some .version := by
        rw [Subcommand.named?, Text.decode?_encode]
        rfl
      have words : (inquiry config "version" query.option?.toList).arguments =
          "version" :: query.option?.toList := rfl
      rw [words, List.map_cons, Invocation.parse_subcommand named (by decide),
        query.parse_option?]
      rfl
  case profiles =>
      intro name plain
      have named : Subcommand.named? (Text.encode "list-profiles") = some .listProfiles := by
        rw [Subcommand.named?, Text.decode?_encode]
        rfl
      have words : (inquiry config "list-profiles" [name]).arguments =
          ["list-profiles", name] := rfl
      rw [words, List.map_cons, Invocation.parse_subcommand named (by decide),
        List.map_singleton, Subcommand.parse_listProfiles plain]
      rfl

/-- The values of a decryption are found again in their order, the time without its fraction of
a second.  The subcommand of an update does not know the flag that asks for no new mechanisms. -/
theorem renamed_flag_is_not_understood :
    let secret := Text.encode
    let late : Timestamp :=
      ⟨1582934399, 500000000, by decide, by decide, by decide⟩
    let whole : Timestamp := ⟨1582934399, 0, by decide, by decide, by decide⟩
    let settings : List Setting := [.verifyWith (secret "A"), .password (secret "p"),
      .notBefore (.fixed late), .key (secret "k"), .sessionKey ⟨9, [0xAB]⟩,
      .verifyWith (secret "B"), .password (secret "q"), .notAfter .unbounded]
    let host := Host.bare .empty []
    let config := Config.new (Path.ofText "sop")
    let files : FileTree := ⟨[([Path.ofText "tmp"], .directory)]⟩
    (∃ ready, (Operation.decrypt.prepare host config settings [] files).1 = .ok ready ∧
      ready.command.words = ["--verify-with=@ENV:VERIFY_WITH_0", "--with-password=@ENV:PASSWORD_0",
        "--verify-not-before=2020-02-28T23:59:59Z", "@ENV:KEY_0",
        "--with-session-key=@ENV:SESSION_KEY_0", "--verify-with=@ENV:VERIFY_WITH_1",
        "--with-password=@ENV:PASSWORD_1", "--verify-not-after=-",
        "--session-key-out=/tmp/sop-scratch/session-key-out",
        "--verify-out=/tmp/sop-scratch/verify-out"] ∧
      Invocation.parse host.lookup (ready.command.arguments.map Text.encode) =
        .ok ⟨config, .operate (.decrypt
          { sessionKeyOut := some "/tmp/sop-scratch/session-key-out"
            sessionKeys := ["@ENV:SESSION_KEY_0"]
            passwords := ["@ENV:PASSWORD_0", "@ENV:PASSWORD_1"]
            verificationsOut := some "/tmp/sop-scratch/verify-out"
            verifiers := ["@ENV:VERIFY_WITH_0", "@ENV:VERIFY_WITH_1"]
            notBefore := some (.fixed whole)
            notAfter := some .unbounded
            keyPasswords := []
            keys := ["@ENV:KEY_0"] })⟩) ∧
    ∃ ready, (Operation.updateKey.prepare host config [.noArmor, .noNewMechanisms] [] files).1 =
        .ok ready ∧
      ready.command.words = ["--no-armor", "--no-new-mechanisms"] ∧
      Invocation.parse host.lookup (ready.command.arguments.map Text.encode) =
        .error .unsupported := by
  intro secret late whole settings host config files
  obtain ⟨operations, -, -⟩ := command_line_understands_its_callers host.lookup host config
  constructor
  · refine ⟨_, rfl, by decide +kernel, ?_⟩
    have decrypted := (operations .decrypt settings [] files _ _ (by decide) (by decide +kernel)
      (by simp [settings, Operation.IsPlain]) rfl).2
    exact decrypted.trans (by decide +kernel)
  · refine ⟨_, rfl, by decide +kernel, ?_⟩
    have updated := (operations .updateKey [.noArmor, .noNewMechanisms] [] files _ _ (by decide)
      (by decide +kernel) (by simp [Operation.IsPlain]) rfl).2
    exact updated

end Cli

end StatelessPgp
