import StatelessPgp.Cli.Outcome
import StatelessPgp.Proofs.Operation.Contributions
import StatelessPgp.Proofs.Operation.Reservation

/-!
# What a task demands

Before the backend is run, a task demands that its arguments go together, that the outputs it
names can be had, that the data it names can be read, and that side channels can be reserved.
Here each of these demands is read off the arguments of the task, subcommand by subcommand and
in the order in which they are looked at.  The plans of tasks make the same demands.
-/

namespace StatelessPgp
namespace Cli

/-- Data that a task names, to be handed over as a secret. -/
inductive Input where
  /-- Data of any form, with the words for it. -/
  | bytes (purpose : String) (category : Category) (token : String)
  | sessionKey (token : String)
  deriving DecidableEq, Repr

namespace Input

/-- The category of the secret that an input yields. -/
def category : Input → Category
  | .bytes _ category _ => category
  | .sessionKey _ => .sessionKey

/-- The failure of a task that cannot read what a token names. -/
def unread (purpose token : String) (failure : Failure) : Failure :=
  failure.context ("Cannot read " ++ purpose ++ " '" ++ Text.strip token ++ "'")

/-- The secret that an input yields.  Data is taken as it is, and a session key must be text
in the form of one. -/
def secret (host : Host) (files : FileTree) : Input → Except Failure (Category × Bytes)
  | .bytes purpose category token =>
      match host.readInput files token with
      | .error failure => .error (unread purpose token failure)
      | .ok data => .ok (category, data)
  | .sessionKey token =>
      match host.readInput files token with
      | .error failure => .error (unread "session key" token failure)
      | .ok data =>
          match Text.decode data with
          | .error error =>
              .error (.because .badData "Session key is not valid UTF-8." error.message)
          | .ok text =>
              (SessionKey.parse text).map fun key => (.sessionKey, Text.encode key.render)

theorem category_of_secret {host : Host} {files : FileTree} {input : Input}
    {secret : Category × Bytes} (yields : input.secret host files = .ok secret) :
    secret.1 = input.category := by
  cases input with
  | bytes purpose category token =>
      rw [Input.secret] at yields
      cases read : host.readInput files token with
      | error failure => rw [read] at yields; cases yields
      | ok data => rw [read] at yields; cases yields; rfl
  | sessionKey token =>
      rw [Input.secret] at yields
      cases read : host.readInput files token with
      | error failure => rw [read] at yields; cases yields
      | ok data =>
          cases decoded : Text.decode data with
          | error error => simp [read, decoded] at yields
          | ok text =>
              cases parsed : SessionKey.parse text with
              | error failure => simp [read, decoded, parsed, Except.map] at yields
              | ok key =>
                  simp only [read, decoded, parsed, Except.map] at yields
                  cases yields
                  rfl

end Input

namespace Task

/-- Arguments of a task that do not go together, with the failure that says so. -/
inductive Lacks : Task → Failure → Prop where
  | recipients {request : Encryption} (passwords : request.passwords = [])
      (certs : request.certs = []) :
      Lacks (.encrypt request) (.new .missingArg
        "At least one password or certificate is required for encryption.")
  | verifiers {request : Decrypting} (wanted : request.verificationsOut ≠ none)
      (verifiers : request.verifiers = []) :
      Lacks (.decrypt request) (.new .incompleteVerification
        "--verifications-out requires at least one --verify-with certificate.")
  | openers {request : Decrypting}
      (verified : request.verificationsOut ≠ none → request.verifiers ≠ [])
      (sessionKeys : request.sessionKeys = []) (passwords : request.passwords = [])
      (keys : request.keys = []) :
      Lacks (.decrypt request) (.new .missingArg
        "Decryption needs a KEY, --with-password or --with-session-key.")

/-- The outputs that a task names, in the order in which they are checked. -/
def outputs : Task → List String
  | .sign _ _ _ micAlgOut _ => micAlgOut.toList
  | .encrypt request => request.sessionKeyOut.toList
  | .decrypt request => request.sessionKeyOut.toList ++ request.verificationsOut.toList
  | .inlineDetach _ signaturesOut => [signaturesOut]
  | .inlineVerify _ _ verificationsOut _ => verificationsOut.toList
  | _ => []

/-- The data that a task names, in the order in which it is read. -/
def inputs : Task → List Input
  | .generateKey _ keyPassword _ _ _ =>
      keyPassword.toList.map (.bytes "key password" .keyPassword)
  | .changeKeyPassword _ newPassword oldPasswords =>
      oldPasswords.map (.bytes "old key password" .keyPassword) ++
        newPassword.toList.map (.bytes "new key password" .keyPassword)
  | .revokeKey _ keyPasswords => keyPasswords.map (.bytes "key password" .keyPassword)
  | .updateKey _ _ _ keyPasswords certs =>
      keyPasswords.map (.bytes "key password" .keyPassword) ++
        certs.map (.bytes "certificates" .cert)
  | .mergeCerts _ certs => certs.map (.bytes "certificates" .cert)
  | .validateUserId _ _ _ authorities => authorities.map (.bytes "certificate" .cert)
  | .certifyUserId _ _ keyPasswords _ keys | .sign _ _ keyPasswords _ keys
  | .inlineSign _ _ keyPasswords keys =>
      keyPasswords.map (.bytes "key password" .keyPassword) ++ keys.map (.bytes "key" .key)
  | .verify _ _ signatures certs =>
      .bytes "signature" .signature signatures :: certs.map (.bytes "certificate" .cert)
  | .inlineVerify _ _ _ certs => certs.map (.bytes "certificate" .cert)
  | .encrypt request =>
      request.keyPasswords.map (.bytes "key password" .keyPassword) ++
        request.signers.map (.bytes "signing key" .signWith) ++
        request.passwords.map (.bytes "password" .password) ++
        request.certs.map (.bytes "certificate" .cert)
  | .decrypt request =>
      request.verifiers.map (.bytes "certificate" .verifyWith) ++
        request.sessionKeys.map .sessionKey ++
        request.passwords.map (.bytes "password" .password) ++
        request.keyPasswords.map (.bytes "key password" .keyPassword) ++
        request.keys.map (.bytes "key" .key)
  | .extractCert _ | .inlineDetach _ _ | .armor _ | .dearmor => []

/-- The side channels for what the backend reports, in the order in which they are reserved. -/
def channels : Task → List Channel
  | .sign .. => [.micAlg]
  | .inlineDetach .. => [.signatures]
  | .inlineVerify .. => [.verifications]
  | .encrypt _ => [.sessionKey]
  | .decrypt request =>
      .sessionKey :: (if request.verifiers = [] then [] else [.verifications])
  | _ => []

/-- The arguments of a task go together, the outputs that it names pass their check, and the
data that it names yields secrets. -/
structure Admits (host : Host) (files : FileTree) (task : Task)
    (secrets : List (Category × Bytes)) : Prop where
  complete : ∀ failure, ¬ task.Lacks failure
  outputs : ∀ token ∈ task.outputs, host.checkOutput files token = .ok ()
  inputs : List.Forall₂ (fun input secret => input.secret host files = .ok secret)
    task.inputs secrets

/-- The first of these demands that is not met. -/
inductive Refuses (host : Host) (files : FileTree) (task : Task) (failure : Failure) :
    Prop where
  | argument (lacks : task.Lacks failure)
  | output (complete : ∀ other, ¬ task.Lacks other)
      (refused : FirstFails (host.checkOutput files) task.outputs failure)
  | input (complete : ∀ other, ¬ task.Lacks other)
      (outputs : ∀ token ∈ task.outputs, host.checkOutput files token = .ok ())
      (refused : FirstFails (Input.secret host files) task.inputs failure)

end Task

end Cli

namespace Setting

variable {setting : Setting} {category : Category} {value : Bytes}

theorem category?_of_sealed? (held : setting.sealed? = some (category, value)) :
    setting.category? = some category := by
  rw [sealed?, Option.bind_eq_some_iff] at held
  obtain ⟨_, named, held⟩ := held
  obtain ⟨_, -, same⟩ := Option.map_eq_some_iff.1 held
  cases same
  exact named

theorem isVerifyWith_eq (setting : Setting) :
    Operation.isVerifyWith setting =
      setting.sealed?.any fun secret => decide (secret.1 = .verifyWith) := by
  cases setting <;> rfl

theorem any_isVerifyWith (settings : List Setting) :
    settings.any Operation.isVerifyWith =
      ((settings.filterMap sealed?).map Prod.fst).any fun category =>
        decide (category = .verifyWith) := by
  rw [List.any_map, List.any_filterMap]
  refine congrArg settings.any (funext fun setting => ?_)
  rw [isVerifyWith_eq]
  cases setting.sealed? <;> rfl

end Setting

namespace Binding

/-- What a binding carries. -/
def secret (binding : Binding) : Category × Bytes :=
  (binding.category, binding.value)

theorem isPortable_iff {binding : Binding} :
    binding.isPortable = true ↔ 0 ∉ binding.secret.2 := by
  simp [isPortable, secret]

end Binding

namespace Operation

variable {operation : Operation} {setting : Setting}

theorem map_secret_addAll (accepted : operation.accepts setting = true) (draft : Draft) :
    (draft.addAll (operation.pieces setting)).secrets.map Binding.secret =
      draft.secrets.map Binding.secret ++ setting.sealed?.toList := by
  obtain ⟨texts, piece, contributed, -, -, held⟩ := pieces_of_accepts accepted
  rw [contributed, Draft.addAll_append, Draft.addAll_words]
  change ((draft.append texts).add piece).secrets.map _ = _
  rw [Draft.secrets_add, held]
  cases setting.sealed? with
  | none => simp [Draft.append]
  | some secret => simp [Draft.append, Secrets.next, Binding.secret]

/-- The secrets of an operation are those of its settings. -/
theorem map_secret_draft {settings : List Setting}
    (accepted : ∀ setting ∈ settings, operation.accepts setting = true) (program : String) :
    (operation.draft program settings).secrets.map Binding.secret =
      settings.filterMap Setting.sealed? := by
  suffices added : ∀ draft : Draft,
      (draft.addAll (operation.allPieces settings)).secrets.map Binding.secret =
        draft.secrets.map Binding.secret ++ settings.filterMap Setting.sealed? from added _
  induction settings with
  | nil => simp [allPieces]
  | cons setting rest hypothesis =>
      intro draft
      have split : operation.allPieces (setting :: rest) =
          operation.pieces setting ++ operation.allPieces rest := rfl
      have later := hypothesis fun other member => accepted other (.tail _ member)
      rw [split, Draft.addAll_append, later, map_secret_addAll (accepted setting (.head _)),
        List.append_assoc]
      cases held : setting.sealed? <;> simp [held]

end Operation

namespace Cli

/-! ## Sources -/

namespace Source

variable {host : Host} {files : FileTree} {operation : Operation} {source : Source}
  {sources : List Source} {setting : Setting}

/-- The setting that comes from a source: data that is read, or a session key that is
read and parsed. -/
inductive Yields (host : Host) (files : FileTree) : Source → Setting → Prop where
  | given (setting : Setting) : Yields host files (.given setting) setting
  | secret (purpose : String) (make : Bytes → Setting) {token : String} {data : Bytes}
      (read : host.readInput files token = .ok data) :
      Yields host files (.secret purpose make token) (make data)
  | sessionKey {token : String} {data : Bytes} {text : String} {key : SessionKey}
      (read : host.readInput files token = .ok data) (decoded : Text.decode data = .ok text)
      (parsed : SessionKey.parse text = .ok key) :
      Yields host files (.sessionKey token) (.sessionKey key)

theorem fetch_eq_ok_iff {purpose token : String} {data : Bytes} :
    fetch host files purpose token = .ok data ↔ host.readInput files token = .ok data := by
  rw [fetch]
  cases host.readInput files token <;> simp [Except.mapError]

theorem resolve_eq_ok_iff :
    source.resolve host files = .ok setting ↔ source.Yields host files setting := by
  constructor
  · intro resolved
    cases source with
    | given => cases resolved; exact .given setting
    | secret purpose make token =>
        rw [resolve] at resolved
        cases fetched : fetch host files purpose token with
        | error failure => simp [fetched, Except.map] at resolved
        | ok data =>
            rw [fetched] at resolved
            cases resolved
            exact .secret purpose make (fetch_eq_ok_iff.1 fetched)
    | sessionKey token =>
        rw [resolve] at resolved
        cases fetched : fetch host files "session key" token with
        | error failure => simp [fetched, bind, Except.bind] at resolved
        | ok data =>
            rw [fetched] at resolved
            cases decoded : Text.decode data with
            | error error =>
                simp [bind, Except.bind, readSessionKey, decoded] at resolved
            | ok text =>
                cases parsed : SessionKey.parse text with
                | error failure =>
                    simp [bind, Except.bind, readSessionKey, decoded, parsed] at resolved
                | ok key =>
                    simp [bind, Except.bind, readSessionKey, decoded, parsed, pure,
                      Except.pure] at resolved
                    subst resolved
                    exact .sessionKey (fetch_eq_ok_iff.1 fetched) decoded parsed
  · intro yields
    cases yields with
    | given => rfl
    | secret purpose make read => rw [resolve, fetch_eq_ok_iff.2 read]; rfl
    | sessionKey read decoded parsed =>
        rw [resolve, fetch_eq_ok_iff.2 read]
        simp [bind, Except.bind, readSessionKey, decoded, parsed, pure, Except.pure]

/-- The input that a setting comes from, if it comes from one. -/
def input? : Source → Option Input
  | .given _ => none
  | .secret purpose make token =>
      (make []).category?.map fun category => .bytes purpose category token
  | .sessionKey token => some (.sessionKey token)

/-- A source of settings that an operation has.  Settings that are given hold no secrets, and
others hold the data that is read. -/
inductive IsFor (operation : Operation) : Source → Prop where
  | given {setting : Setting} (accepted : operation.accepts setting = true)
      (bare : setting.sealed? = none) : IsFor operation (.given setting)
  | secret {purpose token : String} {make : Bytes → Setting} (category : Category)
      (accepted : ∀ data, operation.accepts (make data) = true)
      (sealed : ∀ data, (make data).sealed? = some (category, data)) :
      IsFor operation (.secret purpose make token)
  | sessionKey {token : String}
      (accepted : ∀ key, operation.accepts (.sessionKey key) = true) :
      IsFor operation (.sessionKey token)

theorem accepts_of_yields (isFor : source.IsFor operation)
    (yields : source.Yields host files setting) : operation.accepts setting = true := by
  cases isFor with
  | given accepted => cases yields; exact accepted
  | secret _ accepted => cases yields; exact accepted _
  | sessionKey accepted => cases yields; exact accepted _

/-- A source yields the secret of its input. -/
theorem map_sealed_resolve (isFor : source.IsFor operation) :
    (source.resolve host files).map (fun setting => setting.sealed?.toList) =
      (source.input?.toList.mapM (Input.secret host files)) := by
  cases isFor with
  | given _ bare =>
      rw [resolve, input?, Except.map, bare]
      rfl
  | @secret purpose token make category _ sealed =>
      rw [input?, Setting.category?_of_sealed? (sealed []), resolve, fetch]
      simp only [Option.map_some, Option.toList_some, List.mapM_cons, List.mapM_nil,
        Input.secret]
      cases host.readInput files token with
      | error failure => rfl
      | ok data =>
          change Except.ok (make data).sealed?.toList = _
          rw [sealed]
          rfl
  | @sessionKey token _ =>
      rw [input?, resolve, fetch]
      simp only [Option.toList_some, List.mapM_cons, List.mapM_nil, Input.secret]
      cases host.readInput files token with
      | error failure => rfl
      | ok data =>
          dsimp only [Except.mapError, bind, Except.bind]
          rw [readSessionKey]
          cases Text.decode data with
          | error error => rfl
          | ok text =>
              dsimp only
              cases SessionKey.parse text <;> rfl

/-- Resolving sources yields the secrets of their inputs, or the failure of the first input that
yields none. -/
theorem map_sealed_mapM (allFor : ∀ source ∈ sources, source.IsFor operation) :
    (sources.mapM (resolve host files)).map (List.filterMap Setting.sealed?) =
      (sources.filterMap input?).mapM (Input.secret host files) := by
  induction sources with
  | nil => rfl
  | cons source rest hypothesis =>
      have later := hypothesis fun other member => allFor other (.tail _ member)
      have here : (source.resolve host files).map _ = _ :=
        map_sealed_resolve (allFor source (.head _))
      have split : (source :: rest).filterMap input? =
          source.input?.toList ++ rest.filterMap input? := by
        cases named : source.input? <;> simp [named]
      rw [split, List.mapM_append, ← here, ← later, List.mapM_cons]
      cases source.resolve host files with
      | error failure => rfl
      | ok setting =>
          cases rest.mapM (resolve host files) with
          | error failure => rfl
          | ok settings =>
              dsimp only [bind, Except.bind, Except.map, pure, Except.pure]
              cases sealed : setting.sealed? <;> simp [sealed]

@[simp] theorem filterMap_input?_flag (isSet : Bool) (setting : Setting) :
    (flag isSet setting).filterMap input? = [] := by
  cases isSet <;> rfl

@[simp] theorem filterMap_input?_value {α : Type} (make : α → Setting) (value : Option α) :
    (Source.value make value).filterMap input? = [] := by
  cases value <;> rfl

@[simp] theorem filterMap_input?_secrets (purpose : String) (make : Bytes → Setting)
    (tokens : List String) :
    (secrets purpose make tokens).filterMap input? =
      tokens.filterMap fun token =>
        (make []).category?.map fun category => .bytes purpose category token := by
  rw [secrets, List.filterMap_map]
  rfl

/-- All of some sources are for an operation. -/
def AllFor (operation : Operation) (sources : List Source) : Prop :=
  ∀ source ∈ sources, source.IsFor operation

namespace AllFor

variable {α : Type} {option : Setting} {make : α → Setting} {hold : Bytes → Setting}
  {first second : List Source}

theorem nil : AllFor operation [] :=
  List.forall_mem_nil _

theorem append (left : AllFor operation first) (right : AllFor operation second) :
    AllFor operation (first ++ second) :=
  List.forall_mem_append.2 ⟨left, right⟩

theorem flag (accepted : operation.accepts option = true) (bare : option.sealed? = none)
    (isSet : Bool) : AllFor operation (Source.flag isSet option) := by
  cases isSet with
  | false => exact .nil
  | true => exact List.forall_mem_singleton.2 (.given accepted bare)

theorem map (accepted : ∀ value, operation.accepts (make value) = true)
    (bare : ∀ value, (make value).sealed? = none) (values : List α) :
    AllFor operation (values.map fun value => .given (make value)) :=
  List.forall_mem_map.2 fun value _ => .given (accepted value) (bare value)

theorem secrets (category : Category) (accepted : ∀ data, operation.accepts (hold data) = true)
    (sealed : ∀ data, (hold data).sealed? = some (category, data)) (purpose : String)
    (tokens : List String) :
    AllFor operation (Source.secrets purpose hold tokens) :=
  List.forall_mem_map.2 fun _ _ => .secret category accepted sealed

theorem sessionKeys (accepted : ∀ key, operation.accepts (.sessionKey key) = true)
    (tokens : List String) : AllFor operation (tokens.map .sessionKey) :=
  List.forall_mem_map.2 fun _ _ => .sessionKey accepted

end AllFor

end Source

/-! ## Plans -/

namespace Plan

/-- Everything that a plan checks and reads by itself has succeeded. -/
structure Resolves (plan : Plan) (host : Host) (files : FileTree)
    (settings : List Setting) : Prop where
  unobjectionable : plan.objection = none
  outputs : ∀ token ∈ plan.outputs, host.checkOutput files token = .ok ()
  sources : List.Forall₂ (Source.Yields host files) plan.sources settings

variable {plan : Plan} {host : Host} {files : FileTree} {settings : List Setting}
  {failure : Failure}

theorem settings_of_objection (objects : plan.objection = some failure) :
    plan.settings host files = .error failure := by
  rw [Plan.settings, objects]
  rfl

theorem settings_of_unobjectionable (unobjectionable : plan.objection = none) :
    plan.settings host files =
      (plan.outputs.forM (host.checkOutput files)).bind fun _ =>
        plan.sources.mapM (Source.resolve host files) := by
  rw [Plan.settings, unobjectionable]
  rfl

theorem settings_eq_ok_iff :
    plan.settings host files = .ok settings ↔ plan.Resolves host files settings := by
  have sources : plan.sources.mapM (Source.resolve host files) = .ok settings ↔
      List.Forall₂ (Source.Yields host files) plan.sources settings := by
    simp only [mapM_eq_ok_iff, Source.resolve_eq_ok_iff]
  cases objects : plan.objection with
  | some failure =>
      rw [settings_of_objection objects]
      refine ⟨nofun, fun resolves => ?_⟩
      cases objects.symm.trans resolves.unobjectionable
  | none =>
      rw [settings_of_unobjectionable objects]
      cases checked : plan.outputs.forM (host.checkOutput files) with
      | error failure =>
          refine ⟨nofun, fun resolves => ?_⟩
          cases checked.symm.trans (forM_eq_ok_iff.2 resolves.outputs)
      | ok =>
          refine ⟨fun resolved => ⟨objects, forM_eq_ok_iff.1 checked, sources.1 resolved⟩, ?_⟩
          exact fun resolves => sources.2 resolves.sources

end Plan

namespace Task

variable {task : Task} {host : Host} {files : FileTree} {settings : List Setting}
  {secrets : List (Category × Bytes)} {failure : Failure}

theorem objection_plan : task.plan.objection = some failure ↔ task.Lacks failure := by
  constructor
  · intro objects
    cases task with
    | encrypt request =>
        change (if _ then _ else _) = _ at objects
        split at objects
        · next missing =>
            cases objects
            simp only [Bool.and_eq_true, List.isEmpty_iff] at missing
            exact .recipients missing.1 missing.2
        · cases objects
    | decrypt request =>
        change request.objection = _ at objects
        rw [Decrypting.objection] at objects
        split at objects
        · next unverified =>
            cases objects
            simp only [Bool.and_eq_true, Option.isSome_iff_ne_none, List.isEmpty_iff]
              at unverified
            exact .verifiers unverified.1 unverified.2
        · next verified =>
            split at objects
            · next unopened =>
                cases objects
                simp only [Bool.and_eq_true, Option.isSome_iff_ne_none, List.isEmpty_iff,
                  not_and] at verified unopened
                exact .openers verified unopened.1.1 unopened.1.2 unopened.2
            · cases objects
    | _ => cases objects
  · intro lacks
    cases lacks with
    | @recipients request passwords certs =>
        change (if _ then _ else _) = _
        rw [passwords, certs]
        rfl
    | @verifiers request wanted verifiers =>
        change request.objection = _
        rw [Decrypting.objection, if_pos]
        simp [Option.isSome_iff_ne_none, wanted, verifiers]
    | @openers request verified sessionKeys passwords keys =>
        change request.objection = _
        rw [Decrypting.objection, if_neg, sessionKeys, passwords, keys]
        · rfl
        · simpa [Option.isSome_iff_ne_none] using verified

theorem outputs_plan (task : Task) : task.plan.outputs = task.outputs := by
  cases task <;> rfl

/-- Every setting of a task is one that its operation has. -/
theorem allFor_plan (task : Task) : Source.AllFor task.plan.operation task.plan.sources := by
  cases task <;> repeat' apply Source.AllFor.append
  all_goals
    first
    | exact .nil
    | exact .flag rfl rfl _
    | exact .map (fun _ => rfl) (fun _ => rfl) _
    | exact .sessionKeys (fun _ => rfl) _
    | apply Source.AllFor.secrets <;> exact fun _ => rfl
    | exact List.forall_mem_singleton.2 (.given rfl rfl)

theorem filterMap_input?_plan (task : Task) :
    task.plan.sources.filterMap Source.input? = task.inputs := by
  cases task <;>
    simp [plan, Plan.simple, Encryption.plan, Decrypting.plan, inputs, Source.input?,
      Setting.category?, Function.comp_def]

/-- Before the backend is run, a task yields the secrets of its inputs, once its arguments and
its outputs have been checked. -/
theorem map_sealed_settings (complete : ∀ failure, ¬ task.Lacks failure) :
    (task.plan.settings host files).map (List.filterMap Setting.sealed?) =
      (task.outputs.forM (host.checkOutput files)).bind fun _ =>
        task.inputs.mapM (Input.secret host files) := by
  have unobjectionable : task.plan.objection = none :=
    Option.eq_none_iff_forall_ne_some.2 fun failure objects =>
      complete failure (objection_plan.1 objects)
  rw [Plan.settings_of_unobjectionable unobjectionable, outputs_plan, ← filterMap_input?_plan,
    ← Source.map_sealed_mapM task.allFor_plan]
  cases task.outputs.forM (host.checkOutput files) <;> rfl

theorem settings_of_lacks (lacks : task.Lacks failure) :
    task.plan.settings host files = .error failure :=
  Plan.settings_of_objection (objection_plan.2 lacks)

theorem map_sealed_settings_eq_ok_iff :
    (task.plan.settings host files).map (List.filterMap Setting.sealed?) = .ok secrets ↔
      task.Admits host files secrets := by
  by_cases complete : ∀ failure, ¬ task.Lacks failure
  · rw [map_sealed_settings complete]
    cases checked : task.outputs.forM (host.checkOutput files) with
    | error failure =>
        refine ⟨nofun, fun admits => ?_⟩
        cases checked.symm.trans (forM_eq_ok_iff.2 admits.outputs)
    | ok =>
        refine ⟨fun read => ⟨complete, forM_eq_ok_iff.1 checked, mapM_eq_ok_iff.1 read⟩, ?_⟩
        exact fun admits => mapM_eq_ok_iff.2 admits.inputs
  · refine ⟨fun resolved => ?_, fun admits => absurd admits.complete complete⟩
    push Not at complete
    obtain ⟨failure, lacks⟩ := complete
    rw [settings_of_lacks lacks] at resolved
    cases resolved

theorem exists_settings (admits : task.Admits host files secrets) :
    ∃ settings, task.plan.settings host files = .ok settings ∧
      settings.filterMap Setting.sealed? = secrets := by
  have settled := map_sealed_settings_eq_ok_iff.2 admits
  cases checked : task.plan.settings host files with
  | error failure => rw [checked] at settled; cases settled
  | ok settings =>
      rw [checked] at settled
      exact ⟨settings, rfl, Except.ok.inj settled⟩

theorem admits_of_settings (checked : task.plan.settings host files = .ok settings) :
    task.Admits host files (settings.filterMap Setting.sealed?) := by
  rw [← map_sealed_settings_eq_ok_iff, checked]
  rfl

/-- The operation of a task binds the secrets of the task, in their order. -/
theorem map_secret_plan (checked : task.plan.settings host files = .ok settings)
    (program : String) :
    (task.plan.operation.draft program settings).secrets.map Binding.secret =
      settings.filterMap Setting.sealed? := by
  refine Operation.map_secret_draft (fun setting member => ?_) program
  obtain ⟨source, inside, yields⟩ :=
    exists_of_forall₂ (Plan.settings_eq_ok_iff.1 checked).sources.flip member
  exact Source.accepts_of_yields (task.allFor_plan source inside) yields

/-- The operation of a task reserves the side channels of the task. -/
theorem channels_plan (checked : task.plan.settings host files = .ok settings) :
    task.plan.operation.channels settings = task.channels := by
  cases task with
  | decrypt request =>
      have categories : (settings.filterMap Setting.sealed?).map Prod.fst =
          (Task.decrypt request).inputs.map Input.category := by
        rw [← List.forall₂_eq_eq_eq, List.forall₂_map_left_iff, List.forall₂_map_right_iff]
        exact (admits_of_settings checked).inputs.flip.imp fun _ _ => Input.category_of_secret
      change (Operation.channelOptions .decrypt settings).map Prod.snd = _
      rw [Operation.channelOptions, Setting.any_isVerifyWith, categories, channels]
      cases verifiers : request.verifiers <;>
        simp [inputs, verifiers, Input.category, Function.comp_def]
  | _ => rfl

theorem settings_eq_error_iff :
    task.plan.settings host files = .error failure ↔ task.Refuses host files failure := by
  constructor
  · intro failed
    by_cases complete : ∀ other, ¬ task.Lacks other
    · have settled : (task.plan.settings host files).map _ = _ := map_sealed_settings complete
      rw [failed] at settled
      cases checked : task.outputs.forM (host.checkOutput files) with
      | error refusal =>
          rw [checked] at settled
          cases settled
          exact .output complete (forM_eq_error_iff.1 checked)
      | ok =>
          rw [checked] at settled
          exact .input complete (forM_eq_ok_iff.1 checked)
            (FirstFails.mapM_eq_error_iff.1 settled.symm)
    · push Not at complete
      obtain ⟨other, lacks⟩ := complete
      cases failed.symm.trans (settings_of_lacks lacks)
      exact .argument lacks
  · have sealed_error {result : Except Failure (List Setting)}
        (same : result.map (List.filterMap Setting.sealed?) = .error failure) :
        result = .error failure := by
      cases result with
      | error other => cases same; rfl
      | ok settings => cases same
    rintro (lacks | ⟨complete, refused⟩ | ⟨complete, outputs, refused⟩)
    · exact settings_of_lacks lacks
    · apply sealed_error
      rw [map_sealed_settings complete, forM_eq_error_iff.2 refused]
      rfl
    · apply sealed_error
      rw [map_sealed_settings complete, forM_eq_ok_iff.2 outputs]
      exact FirstFails.mapM_eq_error_iff.2 refused

end Task

end Cli
end StatelessPgp
