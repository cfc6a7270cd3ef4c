import Mathlib.Data.List.Nodup
import StatelessPgp.Proofs.Operation.Reservation
import StatelessPgp.Proofs.Operation.Words

/-!
# The words of a command line

The calls of a builder are written in their order, but for the words that are put off
and come at the end.  Every secret is referred to once, unless a later call has replaced
the reference.
-/

namespace StatelessPgp

namespace Setting

def key? : Setting → Option Bytes
  | .key secret => some secret
  | _ => none

def cert? : Setting → Option Bytes
  | .cert secret => some secret
  | _ => none

def signatures? : Setting → Option Bytes
  | .signatures secret => some secret
  | _ => none

def userId? : Setting → Option String
  | .userId text => some text
  | _ => none

end Setting

namespace Operation

variable {operation : Operation} {position : Position} {category : Category}
  {extract : Setting → Option Bytes}

/-- The words of the settings of an operation that are written in their place. -/
def inlineTokens (operation : Operation) (settings : List Setting) : List Token :=
  Piece.tokensAt .inline [] (operation.allPieces settings)

/-- The words that come after all others, from the settings of each kind in their
order.  Two operations cannot do without the first of them. -/
def deferredTokens (operation : Operation) (keys certs signatures : List Bytes)
    (userIds : List String) : Except Failure (List Token) :=
  match operation with
  | .certifyUserId => .ok (.plain "--" :: Token.references .key 0 keys)
  | .validateUserId =>
      match userIds.getLast? with
      | some userId => .ok (.plain userId :: Token.references .cert 0 certs)
      | none => .error (.new .missingArg "Missing argument: user ID to validate")
  | .verify =>
      match (Token.references .signature 0 signatures).getLast? with
      | some latest => .ok (latest :: Token.references .cert 0 certs)
      | none => .error (.new .missingArg "Missing argument: signatures cannot be null.")
  | _ => .ok []

/-- An operation holds back, at a position other than its place, exactly the secrets of
one category, and a setting that gives one gives nothing else. -/
structure Holds (operation : Operation) (position : Position) (category : Category)
    (extract : Setting → Option Bytes) : Prop where
  apart : position ≠ .inline
  held : ∀ {setting value}, extract setting = some value →
    ∃ piece, operation.pieces setting = [piece] ∧ piece.position = position ∧
      piece.secret? = some (category, value)
  others : ∀ {setting}, extract setting = none → ∀ piece ∈ operation.pieces setting,
    piece.position ≠ position ∧ piece.secret?.map Prod.fst ≠ some category

theorem Holds.tokensAt_eq (holds : operation.Holds position category extract)
    (before : List Piece) (settings : List Setting) :
    Piece.tokensAt position before (operation.allPieces settings) =
      Token.references category (Piece.ordinal before category)
        (settings.filterMap extract) := by
  induction settings generalizing before with
  | nil => rfl
  | cons setting rest hypothesis =>
      have split : operation.allPieces (setting :: rest) =
          operation.pieces setting ++ operation.allPieces rest := rfl
      rw [split, Piece.tokensAt_append, hypothesis, Piece.ordinal_append]
      cases given : extract setting with
      | none =>
          have others := holds.others given
          have uncounted : Piece.ordinal (operation.pieces setting) category = 0 := by
            simpa [Piece.ordinal, List.countP_eq_zero] using fun piece member =>
              (others piece member).2
          rw [Piece.tokensAt_eq_nil fun piece member => (others piece member).1,
            List.filterMap_cons_none given, uncounted]
          rfl
      | some value =>
          obtain ⟨piece, alone, place, secret⟩ := holds.held given
          have counted : Piece.ordinal [piece] category = 1 := by
            simp [Piece.ordinal, secret]
          rw [List.filterMap_cons_some given, alone, counted, Piece.tokensAt_cons,
            if_pos place, Piece.token_of_secret secret (place ▸ holds.apart)]
          simp [Token.references, List.zipIdx_cons]

/-- Secrets that are held back are referred to nowhere else. -/
theorem Holds.countP_elsewhere (holds : operation.Holds position category extract)
    {other : Position} (differs : other ≠ position) {binding : Binding}
    (same : binding.category = category) (before : List Piece) (settings : List Setting) :
    (Piece.tokensAt other before (operation.allPieces settings)).countP
      (Token.refersTo binding) = 0 := by
  rw [List.countP_eq_zero]
  intro token member refers
  obtain ⟨piece, inside, place, numbers, rfl⟩ := Piece.of_mem_tokensAt member
  obtain ⟨setting, -, contributed⟩ := List.mem_flatMap.1 inside
  have bound : (piece.token numbers).binding? = some binding := by
    simpa [Token.refersTo] using refers
  rw [Piece.binding?_token] at bound
  obtain ⟨secret, held, rfl⟩ := Option.map_eq_some_iff.1 bound
  cases given : extract setting with
  | none =>
      apply (holds.others given piece contributed).2
      rw [held, ← same]
      rfl
  | some value =>
      obtain ⟨alone, contribution, position, -⟩ := holds.held given
      rw [contribution] at contributed
      obtain rfl := List.mem_singleton.1 contributed
      exact differs (place.symm.trans position)

theorem holds_certifyUserId : certifyUserId.Holds .rest .key Setting.key? where
  apart := nofun
  held := by
    intro setting value given
    cases setting with
    | key =>
        cases given
        exact ⟨_, rfl, rfl, rfl⟩
    | _ => cases given
  others := by
    intro setting absent
    cases setting with
    | key => cases absent
    | _ => simp [pieces, only, hasArmor, hasKeyPassword, notBeforeOption?, notAfterOption?,
        Piece.position, Piece.secret?]

/-- Two operations end with references to certificates. -/
theorem holds_certs (ends : operation = .validateUserId ∨ operation = .verify) :
    operation.Holds .rest .cert Setting.cert? where
  apart := nofun
  held := by
    intro setting value given
    cases setting with
    | cert =>
        cases given
        rcases ends with rfl | rfl <;> exact ⟨_, rfl, rfl, rfl⟩
    | _ => cases given
  others := by
    intro setting absent
    rcases ends with rfl | rfl <;> cases setting with
    | cert => cases absent
    | _ => simp [pieces, only, hasArmor, hasKeyPassword, notBeforeOption?, notAfterOption?,
        Piece.position, Piece.secret?]

theorem holds_signatures : verify.Holds .first .signature Setting.signatures? where
  apart := nofun
  held := by
    intro setting value given
    cases setting with
    | signatures =>
        cases given
        exact ⟨_, rfl, rfl, rfl⟩
    | _ => cases given
  others := by
    intro setting absent
    cases setting with
    | signatures => cases absent
    | _ => simp [pieces, only, hasArmor, hasKeyPassword, notBeforeOption?, notAfterOption?,
        Piece.position, Piece.secret?]

theorem tokensAt_userIds (before : List Piece) (settings : List Setting) :
    Piece.tokensAt .first before (validateUserId.allPieces settings) =
      (settings.filterMap Setting.userId?).map .plain := by
  induction settings generalizing before with
  | nil => rfl
  | cons setting rest hypothesis =>
      have split : validateUserId.allPieces (setting :: rest) =
          validateUserId.pieces setting ++ validateUserId.allPieces rest := rfl
      rw [split, Piece.tokensAt_append, hypothesis]
      cases setting <;>
        simp [pieces, only, hasArmor, hasKeyPassword, notBeforeOption?, notAfterOption?,
          Piece.tokensAt_cons, Piece.position, Piece.token, Setting.userId?,
          List.filterMap_cons]

/-- Whether an operation has words for a position. -/
def uses (operation : Operation) : Position → Bool
  | .inline => true
  | .first => operation = .validateUserId || operation = .verify
  | .rest => operation = .certifyUserId || operation = .validateUserId || operation = .verify

theorem tokensAt_eq_nil_of_unused (unused : operation.uses position = false)
    (before : List Piece) (settings : List Setting) :
    Piece.tokensAt position before (operation.allPieces settings) = [] := by
  apply Piece.tokensAt_eq_nil
  intro piece member
  obtain ⟨setting, -, contributed⟩ := List.mem_flatMap.1 member
  suffices elsewhere : ∀ piece ∈ operation.pieces setting, piece.position ≠ position from
    elsewhere piece contributed
  cases position with
  | inline => cases unused
  | first | rest =>
      cases setting with
      | userId | key | cert | signatures =>
          cases operation <;> simp [uses, pieces, only, Piece.position] at unused ⊢
      | _ => simp [pieces, only, keyword, Piece.position]

/-- The secrets of the settings of an operation, in their order. -/
def bindings (operation : Operation) (settings : List Setting) : Secrets :=
  (Piece.tokens [] (operation.allPieces settings)).filterMap (·.2.binding?)

/-- A setting with one piece contributes its word, numbered by the settings before it. -/
theorem mem_tokens_of_setting {setting : Setting} {piece : Piece}
    (contributes : operation.pieces setting = [piece]) (before after : List Setting) :
    (piece.position, piece.token (Piece.ordinal (operation.allPieces before))) ∈
      Piece.tokens [] (operation.allPieces (before ++ setting :: after)) := by
  have split : operation.allPieces (before ++ setting :: after) =
      operation.allPieces before ++ piece :: operation.allPieces after := by
    simp [allPieces, contributes]
  rw [split, Piece.tokens_append]
  exact List.mem_append_right _ (.head _)

theorem draft_eq (operation : Operation) (program : String) (settings : List Setting) :
    operation.draft program settings =
      ⟨program, operation.subcommand, (operation.inlineTokens settings).map Token.text,
        operation.bindings settings,
        (Piece.tokensAt .first [] (operation.allPieces settings)).getLast?.map Token.text,
        (Piece.tokensAt .rest [] (operation.allPieces settings)).map Token.text⟩ := by
  have numbered (category : Category) :
      (Draft.new program operation.subcommand).secrets.count category =
        Piece.ordinal [] category := rfl
  rw [draft, Draft.addAll_eq _ [] _ numbered]
  simp [Draft.new, inlineTokens, bindings]

/-- The deferred words for the settings of an operation. -/
def deferredFor (operation : Operation) (settings : List Setting) :
    Except Failure (List Token) :=
  operation.deferredTokens (settings.filterMap Setting.key?)
    (settings.filterMap Setting.cert?) (settings.filterMap Setting.signatures?)
    (settings.filterMap Setting.userId?)

theorem complete_draft (operation : Operation) (program : String)
    (settings : List Setting) :
    operation.complete (operation.draft program settings) =
      (operation.deferredFor settings).map fun deferred =>
        (operation.draft program settings).append (deferred.map Token.text) := by
  have start (category : Category) : Piece.ordinal [] category = 0 := rfl
  cases operation with
  | certifyUserId =>
      have held : (certifyUserId.draft program settings).held =
          (Token.references .key 0 (settings.filterMap Setting.key?)).map Token.text := by
        rw [draft_eq, holds_certifyUserId.tokensAt_eq, start]
      rw [complete, held]
      rfl
  | validateUserId =>
      have held : (validateUserId.draft program settings).held =
          (Token.references .cert 0 (settings.filterMap Setting.cert?)).map Token.text := by
        rw [draft_eq, (holds_certs (.inl rfl)).tokensAt_eq, start]
      have first : (validateUserId.draft program settings).first =
          (settings.filterMap Setting.userId?).getLast? := by
        rw [draft_eq, tokensAt_userIds, List.getLast?_map, Option.map_map]
        exact congrFun Option.map_id _
      rw [complete, held, first, deferredFor, deferredTokens]
      cases (settings.filterMap Setting.userId?).getLast? <;> rfl
  | verify =>
      have held : (verify.draft program settings).held =
          (Token.references .cert 0 (settings.filterMap Setting.cert?)).map Token.text := by
        rw [draft_eq, (holds_certs (.inr rfl)).tokensAt_eq, start]
      have first : (verify.draft program settings).first =
          (Token.references .signature 0
            (settings.filterMap Setting.signatures?)).getLast?.map Token.text := by
        rw [draft_eq, holds_signatures.tokensAt_eq, start]
      rw [complete, held, first, deferredFor, deferredTokens]
      cases (Token.references .signature 0
        (settings.filterMap Setting.signatures?)).getLast? <;> rfl
  | _ => simp [complete, deferredFor, deferredTokens, Except.map, Draft.append]

theorem countP_bindings {settings : List Setting} {binding : Binding}
    (member : binding ∈ operation.bindings settings) :
    (operation.inlineTokens settings).countP (Token.refersTo binding) +
        (Piece.tokensAt .first [] (operation.allPieces settings)).countP
          (Token.refersTo binding) +
        (Piece.tokensAt .rest [] (operation.allPieces settings)).countP
          (Token.refersTo binding) = 1 := by
  have secrets : (operation.draft "" settings).secrets = operation.bindings settings := by
    rw [draft_eq]
  have distinct : (operation.bindings settings).Nodup := by
    rw [← secrets]
    exact (operation.draft_allocated "" settings).names_nodup.of_map
  rw [inlineTokens, ← Piece.countP_tokens, List.countP_map]
  rw [← List.count_eq_one_of_mem distinct member, bindings, List.count_filterMap]
  rfl

/-- Whether the reference to a secret has been replaced: detached signatures were given
again later. -/
def Superseded (operation : Operation) (settings : List Setting) (binding : Binding) : Prop :=
  operation = .verify ∧ binding.category = .signature ∧
    binding.index + 1 < (settings.filterMap Setting.signatures?).length

instance (operation : Operation) (settings : List Setting) (binding : Binding) :
    Decidable (operation.Superseded settings binding) :=
  inferInstanceAs (Decidable (_ ∧ _ ∧ _))

theorem ordinal_nil (category : Category) : Piece.ordinal [] category = 0 := rfl

/-- All words held back are deferred, where none can be replaced. -/
theorem countP_deferred (direct : operation ≠ .verify) {settings : List Setting}
    {deferred : List Token} (completes : operation.deferredFor settings = .ok deferred)
    (binding : Binding) :
    deferred.countP (Token.refersTo binding) =
      (Piece.tokensAt .first [] (operation.allPieces settings)).countP
          (Token.refersTo binding) +
        (Piece.tokensAt .rest [] (operation.allPieces settings)).countP
          (Token.refersTo binding) := by
  have plain (text : String) : ¬ Token.refersTo binding (.plain text) = true := nofun
  cases operation with
  | verify => exact absurd rfl direct
  | certifyUserId =>
      cases completes
      rw [tokensAt_eq_nil_of_unused rfl, holds_certifyUserId.tokensAt_eq, ordinal_nil,
        List.countP_cons_of_neg (plain _), List.countP_nil, Nat.zero_add]
  | validateUserId =>
      rw [tokensAt_userIds, (holds_certs (.inl rfl)).tokensAt_eq, ordinal_nil]
      have first : ((settings.filterMap Setting.userId?).map Token.plain).countP
          (Token.refersTo binding) = 0 := by
        simp [List.countP_eq_zero, plain]
      rw [first, Nat.zero_add]
      rw [deferredFor, deferredTokens] at completes
      split at completes
      · cases completes
        exact List.countP_cons_of_neg (plain _)
      · cases completes
  | _ =>
      cases completes
      rw [tokensAt_eq_nil_of_unused (by rfl), tokensAt_eq_nil_of_unused (by rfl)]
      rfl

/-- Only the latest of the references to detached signatures is deferred. -/
theorem countP_verify {settings : List Setting} {deferred : List Token} {binding : Binding}
    (member : binding ∈ verify.bindings settings)
    (completes : verify.deferredFor settings = .ok deferred) :
    (verify.inlineTokens settings ++ deferred).countP (Token.refersTo binding) =
      if verify.Superseded settings binding then 0 else 1 := by
  have once := countP_bindings member
  have certs := (holds_certs (.inr rfl)).tokensAt_eq [] settings
  rw [ordinal_nil] at certs
  rw [holds_signatures.tokensAt_eq, certs, ordinal_nil] at once
  rw [deferredFor, deferredTokens] at completes
  rcases List.eq_nil_or_concat (settings.filterMap Setting.signatures?) with
    none | ⟨earlier, latest, given⟩
  · rw [none] at completes
    cases completes
  rw [List.concat_eq_append] at given
  rw [given, Token.references_concat, List.getLast?_concat] at completes
  cases completes
  rw [given, Token.references_concat, List.countP_append, List.countP_singleton] at once
  rw [List.countP_append, List.countP_cons]
  by_cases superseded : verify.Superseded settings binding
  · rw [if_pos superseded]
    obtain ⟨-, category, index⟩ := superseded
    have inline : (verify.inlineTokens settings).countP (Token.refersTo binding) = 0 :=
      holds_signatures.countP_elsewhere (by decide) category [] settings
    have rest : (Token.references .cert 0 (settings.filterMap Setting.cert?)).countP
        (Token.refersTo binding) = 0 := by
      rw [← certs]
      exact holds_signatures.countP_elsewhere (by decide) category [] settings
    have other : Token.refersTo binding
        (.reference "" ⟨.signature, 0 + earlier.length, latest⟩) ≠ true := by
      intro refers
      obtain rfl : ⟨.signature, 0 + earlier.length, latest⟩ = binding := by
        simpa [Token.refersTo, Token.binding?] using refers
      simp [given] at index
    rw [if_neg other, inline, rest]
  · have earlier : (Token.references .signature 0 earlier).countP
        (Token.refersTo binding) = 0 := by
      rw [List.countP_eq_zero]
      intro token inside refers
      obtain ⟨other, rfl, category, index⟩ := Token.of_mem_references inside
      obtain rfl : other = binding := by simpa [Token.refersTo, Token.binding?] using refers
      refine superseded ⟨rfl, category, ?_⟩
      rw [given, List.length_append, List.length_singleton]
      omega
    rw [if_neg superseded]
    omega

theorem countP_inline_deferred {settings : List Setting} {deferred : List Token}
    {binding : Binding} (member : binding ∈ operation.bindings settings)
    (completes : operation.deferredFor settings = .ok deferred) :
    (operation.inlineTokens settings ++ deferred).countP (Token.refersTo binding) =
      if operation.Superseded settings binding then 0 else 1 := by
  by_cases direct : operation = .verify
  · subst direct
    exact countP_verify member completes
  · rw [List.countP_append, countP_deferred direct completes, ← Nat.add_assoc,
      countP_bindings member, if_neg fun superseded => direct superseded.1]

/-- The option for a channel with the path of its file. -/
def channelWord (directory : Path) (option : String × Channel) : String :=
  option.1 ++ "=" ++ (directory.join (Path.ofText option.2.fileName)).display

section

variable {host : Host} {channels later : Channels} {files left : FileTree} {path : Path}

theorem reserve_of_opened {channel : Channel} {found : Path}
    (opened : channels.directory = some path) (unreserved : channels.path? channel = none)
    (reserves : channels.reserve host channel files = (.ok found, later, left)) :
    found = path.join (Path.ofText channel.fileName) ∧
      later = { channels with reserved := channels.reserved ++ [(channel, found)] } := by
  rw [Channels.reserve, unreserved, Channels.openDirectory_of_opened opened] at reserves
  dsimp only at reserves
  split at reserves
  · cases reserves
  · cases reserves
    exact ⟨rfl, rfl⟩

/-- Reserving channels in a private directory appends their options. -/
theorem words_reserveAll {options : List (String × Channel)} {draft reserved : Draft}
    (opened : channels.directory = some path) (distinct : (options.map Prod.snd).Nodup)
    (unreserved : ∀ option ∈ options, channels.path? option.2 = none)
    (reserve : reserveAll host draft channels files options = (.ok reserved, later, left)) :
    reserved = draft.append (options.map (channelWord path)) ∧
      later.directory = some path := by
  induction options generalizing draft channels files with
  | nil =>
      cases reserve
      exact ⟨by simp [Draft.append], opened⟩
  | cons option rest hypothesis =>
      obtain ⟨apart, distinct⟩ := List.nodup_cons.1 distinct
      rw [reserveAll] at reserve
      split at reserve
      · cases reserve
      · next found next made reserves =>
          obtain ⟨rfl, rfl⟩ := reserve_of_opened opened (unreserved option (.head _)) reserves
          obtain ⟨rfl, directory⟩ := hypothesis (by exact opened) distinct
            (unreserved_cons apart unreserved _) reserve
          refine ⟨?_, directory⟩
          simp [Draft.append, Draft.option, Draft.word, channelWord]

/-- The words of an operation that has been made ready. -/
theorem vector_prepare {operation : Operation} {config : Config} {settings : List Setting}
    {input : Bytes} {deferred : List Token} {ready : Ready operation}
    (completes : operation.deferredFor settings = .ok deferred)
    (prepared : operation.prepare host config settings input files = (.ok ready, left)) :
    ∃ directory : Path,
      (operation.channelOptions settings ≠ [] → ready.channels.directory = some directory) ∧
      ready.command.vector = config.program :: operation.subcommand ::
        ((operation.inlineTokens settings ++ deferred).map Token.text ++
          (operation.channelOptions settings).map (channelWord directory)) := by
  obtain ⟨completed, reserved, channels, complete, reserve, rfl⟩ := prepare_ok prepared
  have extended : (operation.draft config.program settings).append
      (deferred.map Token.text) = completed := by
    rw [complete_draft, completes] at complete
    exact Except.ok.inj complete
  have drafted : completed = ⟨config.program, operation.subcommand,
      (operation.inlineTokens settings ++ deferred).map Token.text,
      completed.secrets, completed.first, completed.held⟩ := by
    rw [← extended, draft_eq]
    simp [Draft.append]
  by_cases needed : operation.channelOptions settings = []
  · rw [needed, reserveAll] at reserve
    cases reserve
    refine ⟨[], fun wanted => absurd needed wanted, ?_⟩
    rw [needed, drafted]
    simp [Draft.freeze, Command.vector, Command.arguments]
  · rw [reserveAll_new needed] at reserve
    split at reserve
    · cases reserve
    · next directory made created =>
        obtain ⟨rfl, opened⟩ := words_reserveAll rfl (operation.nodup_channelOptions settings)
          (fun _ _ => rfl) reserve
        refine ⟨directory, fun _ => opened, ?_⟩
        rw [drafted]
        simp [Draft.append, Draft.freeze, Command.vector, Command.arguments]

end

end Operation

/-- The command line of an operation follows its calls: the words of each call in its
place, then the words that were put off, then the options for side channels.  What is put
off depends on the calls of each kind only.  Each secret is numbered by those of its
category before it, and exactly one word refers to it, unless it is a signature file that
has been replaced.  A call that must not be missing is missed before anything happens. -/
theorem vector_follows_calls (operation : Operation) (host : Host) (config : Config)
    (settings : List Setting) (input : Bytes) (world : World) :
    match operation.deferredTokens (settings.filterMap Setting.key?)
        (settings.filterMap Setting.cert?) (settings.filterMap Setting.signatures?)
        (settings.filterMap Setting.userId?) with
    | .error failure =>
        operation.invoke host config settings input world = ⟨[], .error failure, world⟩
    | .ok deferred =>
        (∀ ready left,
          operation.prepare host config settings input world.files = (.ok ready, left) →
          ready.command.secrets = operation.bindings settings ∧
          ∃ directory : Path,
            (operation.channelOptions settings ≠ [] →
              ready.channels.directory = some directory) ∧
            ready.command.vector = config.program :: operation.subcommand ::
              ((operation.inlineTokens settings ++ deferred).map Token.text ++
                (operation.channelOptions settings).map
                  (Operation.channelWord directory))) ∧
        (∀ failure left,
          operation.prepare host config settings input world.files =
            (.error failure, left) →
          operation.channelOptions settings ≠ [] ∧ ∃ error, failure = .transfer error) ∧
        (∀ earlier binding later,
          operation.bindings settings = earlier ++ binding :: later →
          binding.index = Secrets.count earlier binding.category) ∧
        ∀ binding ∈ operation.bindings settings,
          (operation.inlineTokens settings ++ deferred).countP (Token.refersTo binding) =
            if operation.Superseded settings binding then 0 else 1 := by
  have secrets : (operation.draft config.program settings).secrets =
      operation.bindings settings := by
    rw [Operation.draft_eq]
  change match operation.deferredFor settings with
    | .error failure => _
    | .ok deferred => _
  cases completes : operation.deferredFor settings with
  | error failure =>
      dsimp only
      rw [Operation.invoke, Operation.prepare, Operation.complete_draft, completes]
      rfl
  | ok deferred =>
      refine ⟨?vector, ?failures, ?numbers, ?references⟩
      case vector =>
          intro ready left prepared
          exact ⟨(Operation.prepare_secrets prepared).trans secrets,
            Operation.vector_prepare completes prepared⟩
      case failures =>
          intro failure left prepared
          rw [Operation.prepare, Operation.complete_draft, completes] at prepared
          dsimp only [Except.map] at prepared
          split at prepared
          · next error channels files reserve =>
              cases prepared
              refine ⟨?_, error, rfl⟩
              intro none
              rw [none, Operation.reserveAll] at reserve
              cases reserve
          · cases prepared
      case numbers =>
          intro earlier binding later split
          exact (operation.draft_allocated config.program settings).index_eq
            (secrets.trans split)
      case references =>
          exact fun binding member => Operation.countP_inline_deferred member completes

/-- The second signature file replaces the first, and certificates come after it. -/
example (first second cert : Bytes) :
    Operation.verify.deferredFor
        [.cert cert, .signatures first, .notBefore .now, .signatures second] =
      .ok [.reference "" ⟨.signature, 1, second⟩, .reference "" ⟨.cert, 0, cert⟩] := rfl

end StatelessPgp
