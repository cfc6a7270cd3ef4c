import StatelessPgp.Proofs.Cli.SideOutputs
import StatelessPgp.Proofs.Environment.Layers
import StatelessPgp.Proofs.Operation.Vector
import StatelessPgp.Proofs.SessionKey.Written

/-!
# Relaying session keys

A session key that the backend reports is written to a file in a line of its own.  When the
file is given for a decryption, that line is read as the same key again, and the backend is
handed the text form of the key under a number: how many session keys are given before it.
-/

namespace StatelessPgp

open FileTree

theorem Host.readInput_of_leadsTo {host : Host} {files : FileTree} {token path : String}
    {location : Location} {data : Bytes} (named : Designator.parse token = .ok (.file path))
    (leads : host.LeadsTo files token location)
    (found : files.get? location = some (.file data)) :
    host.readInput files token = .ok data := by
  rw [LeadsTo, ← Designator.parse_file named] at leads
  rw [readInput, named]
  change host.readFile files path = .ok data
  rw [readFile, find_followed leads found]

/-- Whether a setting is a session key. -/
def Setting.isSessionKey : Setting → Bool
  | .sessionKey _ => true
  | _ => false

/-- The session keys of a decryption are numbered in their order, whatever else is given. -/
theorem Operation.ordinal_sessionKey (settings : List Setting) :
    Piece.ordinal (decrypt.allPieces settings) .sessionKey =
      settings.countP Setting.isSessionKey := by
  induction settings with
  | nil => rfl
  | cons setting rest hypothesis =>
      have split : decrypt.allPieces (setting :: rest) =
          decrypt.pieces setting ++ decrypt.allPieces rest := rfl
      rw [split, Piece.ordinal_append, hypothesis, List.countP_cons, Nat.add_comm]
      congr 1
      cases setting <;> rfl

/-- The variable and the word for a session key that is given to a decryption. -/
theorem Operation.sessionKey_prepared {host : Host} {config : Config} {key : SessionKey}
    {before after : List Setting} {input : Bytes} {files left : FileTree}
    {ready : Ready .decrypt}
    (prepared : decrypt.prepare host config (before ++ .sessionKey key :: after) input files =
      (.ok ready, left)) :
    ⟨.sessionKey, before.countP Setting.isSessionKey, Text.encode key.render⟩ ∈
        ready.command.secrets ∧
      "--with-session-key=" ++ (Binding.reference
          ⟨.sessionKey, before.countP Setting.isSessionKey, Text.encode key.render⟩) ∈
        ready.command.words := by
  have alone : decrypt.pieces (.sessionKey key) =
      [.secretOption "--with-session-key" .sessionKey (Text.encode key.render)] := rfl
  have contributed := mem_tokens_of_setting alone before after
  rw [Piece.token, ordinal_sessionKey] at contributed
  constructor
  · rw [prepare_secrets prepared, draft_eq]
    exact List.mem_filterMap.2 ⟨_, contributed, rfl⟩
  · obtain ⟨directory, -, vector⟩ := vector_prepare rfl prepared
    have words := (List.cons.inj (List.cons.inj vector).2).2
    rw [words]
    apply List.mem_append_left
    rw [List.append_nil]
    exact List.mem_map.2 ⟨_, Piece.mem_tokensAt contributed, rfl⟩

theorem Ready.calls_run {operation : Operation} (ready : Ready operation) (host : Host)
    (world : World) :
    (ready.run host world).world.calls =
      (ready.command.execute host ready.config ready.input world).world.calls := by
  rw [run]

/-- A call hands over the words and the environment of its command. -/
theorem Host.of_call {host : Host} {config : Config} {command : Command}
    {input : Option Bytes} {files : FileTree} {call : Call}
    (called : host.call config command input files = .ok call) :
    call.arguments = command.arguments ∧
      call.environment = host.environmentFor config command := by
  rw [Host.call] at called
  split at called
  · cases called
  · cases started : host.startDirectory config files with
    | error error => simp [started, bind, Except.bind] at called
    | ok directory =>
        simp only [started, bind, Except.bind] at called
        split at called
        · cases called
        · split at called <;> cases called
          exact ⟨rfl, rfl⟩

namespace Cli

/-- Delivering results makes no calls. -/
theorem Plan.calls_perform {plan : Plan} {host : Host} {config : Config} {input : Bytes}
    {world : World} {settings : List Setting} {ready : Ready plan.operation} {made : FileTree}
    (checked : plan.settings host world.files = .ok settings)
    (prepared : plan.operation.prepare host config settings input world.files =
      (.ok ready, made)) :
    (plan.perform host config input world).2.world.calls =
      (ready.command.execute host config ready.input
        { world with files := made }).world.calls := by
  have same := Operation.prepare_config prepared
  subst same
  rw [← ready.calls_run, perform, checked]
  dsimp only
  rw [Operation.invoke, prepared]
  dsimp only
  split
  · rfl
  · exact (Console.continues_deliverAll _ _ _).calls

/-- A task calls the backend at most once, and only when it has come to a run. -/
theorem Task.calls_perform (task : Task) (host : Host) (config : Config) (input : Bytes)
    (world : World) :
    (task.plan.perform host config input world).2.world.calls = world.calls ∨
      ∃ launch call, Request.Launches host config input world (.operate task) launch ∧
        host.call config launch.command launch.input launch.world.files = .ok call ∧
        (task.plan.perform host config input world).2.world.calls = call :: world.calls := by
  cases checked : task.plan.settings host world.files with
  | error failure =>
      rw [Plan.perform, checked]
      exact .inl rfl
  | ok settings =>
      rcases prepared : task.plan.operation.prepare host config settings input world.files with
        ⟨failure | ready, made⟩
      · rw [Plan.perform, checked]
        dsimp only
        rw [Operation.invoke, prepared]
        exact .inl rfl
      · rw [Plan.calls_perform checked prepared]
        rcases ready.command.secrets.validate_cases with
          ⟨valid, portable⟩ | ⟨_, _, _, -, -, -, invalid⟩
        · cases called : host.call config ready.command ready.input made with
          | error reason =>
              rw [Command.execute_of_unstarted valid called]
              exact .inl rfl
          | ok call =>
              rw [Command.execute_of_started valid called]
              exact .inr ⟨_, call, .task checked prepared portable, called, rfl⟩
        · rw [Command.execute_of_invalid invalid]
          exact .inl rfl

/-- Whether a source is a session key. -/
def Source.isSessionKey : Source → Bool
  | .sessionKey _ => true
  | _ => false

/-- The sources of a decryption that come before one of its session keys. -/
def Decrypting.sourcesBefore (request : Decrypting) (number : Nat) : List Source :=
  Source.value .notBefore request.notBefore ++
    Source.value .notAfter request.notAfter ++
    Source.secrets "certificate" .verifyWith request.verifiers ++
    (request.sessionKeys.take number).map .sessionKey

section

variable {request : Decrypting} {number : Nat} {token : String}

theorem Decrypting.exists_sourcesAfter (given : request.sessionKeys[number]? = some token) :
    ∃ after, request.plan.sources =
      request.sourcesBefore number ++ .sessionKey token :: after := by
  obtain ⟨within, rfl⟩ := List.getElem?_eq_some_iff.1 given
  have split : request.sessionKeys = request.sessionKeys.take number ++
      request.sessionKeys[number] :: request.sessionKeys.drop (number + 1) := by
    rw [List.getElem_cons_drop, List.take_append_drop]
  refine ⟨(request.sessionKeys.drop (number + 1)).map .sessionKey ++
    Source.secrets "password" .password request.passwords ++
    Source.secrets "key password" .keyPassword request.keyPasswords ++
    Source.secrets "key" .key request.keys, ?_⟩
  rw [plan, sourcesBefore]
  conv_lhs => rw [split]
  simp only [List.map_append, List.map_cons, List.append_assoc, List.cons_append]

theorem Decrypting.countP_sourcesBefore (given : request.sessionKeys[number]? = some token) :
    (request.sourcesBefore number).countP Source.isSessionKey = number := by
  obtain ⟨within, -⟩ := List.getElem?_eq_some_iff.1 given
  have keys (tokens : List String) :
      (tokens.map Source.sessionKey).countP Source.isSessionKey = tokens.length := by
    rw [List.countP_map, List.countP_eq_length]
    exact fun _ _ => rfl
  have others (make : TimeBound → Setting) (bound : Option TimeBound) :
      (Source.value make bound).countP Source.isSessionKey = 0 := by
    cases bound <;> rfl
  have secrets (purpose : String) (make : Bytes → Setting) (tokens : List String) :
      (Source.secrets purpose make tokens).countP Source.isSessionKey = 0 := by
    rw [Source.secrets, List.countP_map, List.countP_eq_zero]
    exact fun _ _ => Bool.false_ne_true
  rw [sourcesBefore, List.countP_append, List.countP_append, List.countP_append, others, others,
    secrets, keys, List.length_take, Nat.min_eq_left within.le]
  simp

theorem Decrypting.isSessionKey_of_yields {host : Host} {files : FileTree} {source : Source}
    {setting : Setting} (member : source ∈ request.sourcesBefore number)
    (yields : source.Yields host files setting) :
    setting.isSessionKey = source.isSessionKey := by
  simp only [sourcesBefore, Source.value, Source.secrets, List.mem_append, List.mem_map] at member
  rcases member with ((⟨_, -, rfl⟩ | ⟨_, -, rfl⟩) | ⟨_, -, rfl⟩) | ⟨_, -, rfl⟩ <;>
    cases yields <;> rfl

end

theorem countP_of_yields {host : Host} {files : FileTree} {sources : List Source}
    {settings : List Setting} (related : List.Forall₂ (Source.Yields host files) sources settings)
    (alike : ∀ source ∈ sources, ∀ setting, source.Yields host files setting →
      setting.isSessionKey = source.isSessionKey) :
    settings.countP Setting.isSessionKey = sources.countP Source.isSessionKey := by
  induction related with
  | nil => rfl
  | cons yields _ hypothesis =>
      obtain ⟨first, others⟩ := List.forall_mem_cons.1 alike
      rw [List.countP_cons, List.countP_cons, hypothesis others, first _ yields]

/-- The variable and the word for a session key that is given to a decryption, whose number
is how many session keys are given before it. -/
theorem Decrypting.sessionKey_launched {host : Host} {config : Config} {input : Bytes}
    {world : World} {request : Decrypting} {launch : Launch} {number : Nat} {token : String}
    {key : SessionKey}
    (launches : Request.Launches host config input world (.operate (.decrypt request)) launch)
    (given : request.sessionKeys[number]? = some token)
    (resolved : Source.resolve host world.files (.sessionKey token) = .ok (.sessionKey key)) :
    launch.command.secretNames.Nodup ∧
      ⟨.sessionKey, number, Text.encode key.render⟩ ∈ launch.command.secrets ∧
      "--with-session-key=" ++
          Binding.reference ⟨.sessionKey, number, Text.encode key.render⟩ ∈
        launch.command.words := by
  cases launches with
  | @task _ settings ready made checked prepared portable =>
      obtain ⟨-, -, sources⟩ := Plan.settings_eq_ok_iff.1 checked
      obtain ⟨later, split⟩ := request.exists_sourcesAfter given
      change List.Forall₂ _ request.plan.sources settings at sources
      rw [split] at sources
      obtain ⟨before, setting, after, rfl, earlier, yields⟩ :=
        exists_append_of_forall₂ sources
      have same : Setting.sessionKey key = setting :=
        Except.ok.inj (resolved.symm.trans (Source.resolve_eq_ok_iff.2 yields))
      subst same
      have counted : before.countP Setting.isSessionKey = number := by
        rw [countP_of_yields earlier fun source member setting => isSessionKey_of_yields member,
          countP_sourcesBefore given]
      have carried := Operation.sessionKey_prepared prepared
      rw [counted] at carried
      refine ⟨?_, carried⟩
      rw [Command.secretNames, Operation.prepare_secrets prepared]
      exact (Operation.decrypt.draft_allocated config.program _).names_nodup

/-- Where a task is asked to write the session key of its message. -/
def Task.sessionKeyOut? : Task → Option String
  | .encrypt request => request.sessionKeyOut
  | .decrypt request => request.sessionKeyOut
  | _ => none

/-- What is written of a session key can be told from what was found. -/
theorem WritesKey.eq_line {data : Bytes} {text token : String} {key : SessionKey}
    {outputs : List (String × Bytes)} (writes : WritesKey (some data) (some token) outputs)
    (decoded : Text.decode data = .ok text)
    (accepted : SessionKey.parse (Text.strip text) = .ok key) :
    outputs = [(token, Text.encode (key.render ++ "\n"))] := by
  cases writes with
  | line tells parsed =>
      cases tells with
      | text other =>
          rw [Except.ok.inj (other.symm.trans decoded), accepted] at parsed
          rw [Except.ok.inj parsed]

/-- The session key is the first output. -/
theorem Task.Completes.exists_keyOutput {host : Host} {config : Config} {input : Bytes}
    {world : World} {task : Task} {launch : Launch} {call : Call}
    {value : task.plan.operation.Result} {delivery : Delivery} {token text : String}
    {data : Bytes} {key : SessionKey} {reached : Channels × FileTree}
    (completes : task.Completes host config input world launch call value delivery)
    (asked : task.sessionKeyOut? = some token)
    (consumed : launch.channels.consume host.directory .sessionKey (launch.left host call) =
      (.ok (some data), reached))
    (decoded : Text.decode data = .ok text)
    (accepted : SessionKey.parse (Text.strip text) = .ok key) :
    ∃ others, delivery.outputs = (token, Text.encode (key.render ++ "\n")) :: others := by
  cases task with
  | encrypt request =>
      cases completes.writes rfl with
      | encrypt consumedKey writes =>
          obtain ⟨⟨⟩, -⟩ := Prod.ext_iff.1 (consumedKey.symm.trans consumed)
          change request.sessionKeyOut = some token at asked
          rw [asked] at writes
          exact ⟨[], writes.eq_line decoded accepted⟩
  | decrypt request =>
      generalize written : delivery.outputs = outputs
      have writes := completes.writes rfl
      rw [written] at writes
      cases writes with
      | @decrypt _ _ _ _ _ _ keys lines consumedKey consumedRecords writesKey writesRecords =>
          obtain ⟨⟨⟩, -⟩ := Prod.ext_iff.1 (consumedKey.symm.trans consumed)
          change request.sessionKeyOut = some token at asked
          rw [asked] at writesKey
          rw [writesKey.eq_line decoded accepted]
          exact ⟨lines, rfl⟩
  | _ => cases asked

namespace Console

variable {host : Host} {token : String} {data : Bytes} {before after : Console}
variable {location : Location}

/-- What is written later leaves a file as it is to which no open descriptor refers. -/
theorem get?_deliverAll_of_apart {entry : Entry}
    (apart : ∀ number, host.descriptors.lookup number ≠ some (.file location))
    (held : before.world.files.get? location = some entry) (outputs : List (String × Bytes)) :
    (before.deliverAll host outputs).2.world.files.get? location = some entry := by
  induction outputs generalizing before with
  | nil => exact held
  | cons output rest hypothesis =>
      obtain ⟨token, data⟩ := output
      rcases before.deliver_cases host token data with
        ⟨failure, refused⟩ | ⟨after, done, -⟩
      · rw [deliverAll_cons_of_refused refused]
        exact held
      · rw [deliverAll_cons_of_ok done]
        apply hypothesis
        obtain ⟨descriptor, opened, grants, takes⟩ := takes_of_deliver done
        cases takes with
        | @made _ place _ _ leads vacant deposited =>
            refine (deposited.elsewhere location ?_).trans held
            rintro rfl
            rw [held] at vacant
            cases vacant
        | @overwritten _ place _ _ named former deposited =>
            refine (deposited.elsewhere location ?_).trans held
            rintro rfl
            cases grants with
            | descriptor _ _ _ isOpen => exact apart _ isOpen
            | file other => cases named.symm.trans other
        | lost | printed | reported => exact held

/-- If the first output is a file, it holds its data once it has been made. -/
theorem get?_deliverAll_first {path : String} {others : List (String × Bytes)}
    (named : Designator.parse token = .ok (.file path))
    (apart : ∀ number, host.descriptors.lookup number ≠ some (.file location))
    (leads : host.LeadsTo before.world.files token location)
    (vacant : before.world.files.get? location = none) :
    ((before.deliverAll host ((token, data) :: others)).1 ≠ .ok () ∧
        (before.deliverAll host ((token, data) :: others)).2.world.files.get? location = none) ∨
      (before.deliverAll host ((token, data) :: others)).2.world.files.get? location =
        some (.file data) := by
  rcases before.deliver_cases host token data with ⟨failure, refused⟩ | ⟨after, done, -⟩
  · rw [deliverAll_cons_of_refused refused]
    exact .inl ⟨nofun, vacant⟩
  · rw [deliverAll_cons_of_ok done]
    obtain ⟨descriptor, opened, grants, takes⟩ := takes_of_deliver done
    cases takes with
    | made _ leadsThere _ deposited =>
        rw [leadsThere.unique leads] at deposited
        exact .inr (get?_deliverAll_of_apart apart deposited.placed others)
    | overwritten other | lost other | printed other | reported other =>
        cases named.symm.trans other

end Console

section

variable {host : Host} {words : List Bytes} {input : Bytes} {world : World} {config : Config}
variable {task : Task} {launch : Launch} {call : Call} {token path text : String} {data : Bytes}
variable {key : SessionKey} {reached : Channels × FileTree}

theorem Task.completes_or_fails
    (launches : Request.Launches host config input world (.operate task) launch)
    (succeeds : launch.Succeeds host config call) :
    (∃ value delivery, task.Completes host config input world launch call value delivery) ∨
      ∃ failure, task.plan.perform host config input world =
        (.error failure, launch.settled host task.plan.operation call) := by
  have performed := Task.perform_of_launch launches succeeds
  cases read : ((task.plan.operation.finish (host.backend call launch.world.files).output
    host.directory).run (launch.channels, launch.left host call) : _ × _).1 with
  | error failure =>
      rw [read] at performed
      exact .inr ⟨failure, performed⟩
  | ok value =>
      rw [read] at performed
      cases delivered : task.plan.deliver value with
      | error failure =>
          rw [Except.bind, delivered] at performed
          exact .inr ⟨failure, performed⟩
      | ok delivery => exact .inl ⟨value, delivery, launches, succeeds, read, delivered⟩

/-- Where the backend has left nothing, there is nothing or the line of the session key. -/
theorem Task.sessionKey_written
    (parsed : Invocation.parse host.lookup words = .ok ⟨config, .operate task⟩)
    (asked : task.sessionKeyOut? = some token)
    (named : Designator.parse token = .ok (.file path))
    (launches : Request.Launches host config input world (.operate task) launch)
    (succeeds : launch.Succeeds host config call)
    (consumed : launch.channels.consume host.directory .sessionKey (launch.left host call) =
      (.ok (some data), reached))
    (decoded : Text.decode data = .ok text)
    (accepted : SessionKey.parse (Text.strip text) = .ok key) {location : Location}
    (apart : ∀ number, host.descriptors.lookup number ≠ some (.file location))
    (leads : host.LeadsTo (Outcome.ofWords host words input world).world.files token location)
    (vacant : (launch.settled host task.plan.operation call).world.files.get? location = none) :
    ((Outcome.ofWords host words input world).status ≠ 0 ∧
        (Outcome.ofWords host words input world).world.files.get? location = none) ∨
      (Outcome.ofWords host words input world).world.files.get? location =
        some (.file (Text.encode (key.render ++ "\n"))) := by
  have side : task.hasSideOutputs = true := by
    cases task with
    | encrypt | decrypt => rfl
    | _ => cases asked
  rcases Task.completes_or_fails launches succeeds with
    ⟨value, delivery, completes⟩ | ⟨failure, failed⟩
  · obtain ⟨others, outputs⟩ := completes.exists_keyOutput asked consumed decoded accepted
    have continues := Console.continues_deliverAll host
      (launch.settled host task.plan.operation call) delivery.outputs
    rw [completes.outcome_eq side parsed, Outcome.world_ofResult] at leads ⊢
    rw [Host.leadsTo_filled continues.filled] at leads
    rw [outputs, ne_eq, Outcome.status_ofResult_eq_zero]
    exact Console.get?_deliverAll_first named apart leads vacant
  · left
    rw [Outcome.ofWords_of_parsed parsed]
    change (Outcome.ofResult (task.plan.perform host config input world)).status ≠ 0 ∧
      (Outcome.ofResult (task.plan.perform host config input world)).world.files.get? location =
        none
    rw [failed, ne_eq, Outcome.status_ofResult_eq_zero]
    exact ⟨nofun, vacant⟩

/-- A file that is written can be read again under the token that it was written to. -/
theorem Task.sessionKey_readable
    (parsed : Invocation.parse host.lookup words = .ok ⟨config, .operate task⟩)
    (asked : task.sessionKeyOut? = some token)
    (named : Designator.parse token = .ok (.file path))
    (launches : Request.Launches host config input world (.operate task) launch)
    (succeeds : launch.Succeeds host config call)
    (consumed : launch.channels.consume host.directory .sessionKey (launch.left host call) =
      (.ok (some data), reached))
    (decoded : Text.decode data = .ok text)
    (accepted : SessionKey.parse (Text.strip text) = .ok key)
    (apart : ∀ number location, host.descriptors.lookup number = some (.file location) →
      ¬ host.LeadsTo (Outcome.ofWords host words input world).world.files token location)
    (done : (Outcome.ofWords host words input world).status = 0) :
    host.readInput (Outcome.ofWords host words input world).world.files token =
      .ok (Text.encode (key.render ++ "\n")) := by
  have side : task.hasSideOutputs = true := by
    cases task with
    | encrypt | decrypt => rfl
    | _ => cases asked
  rcases Task.completes_or_fails launches succeeds with
    ⟨value, delivery, completes⟩ | ⟨failure, failed⟩
  · obtain ⟨others, outputs⟩ := completes.exists_keyOutput asked consumed decoded accepted
    have outcome := completes.outcome_eq side parsed
    have granted : ∃ descriptor opened, host.Grants
        (launch.settled host task.plan.operation call).world.files token descriptor opened := by
      rw [outcome, Outcome.status_ofResult_eq_zero] at done
      have first : (token, Text.encode (key.render ++ "\n")) ∈ delivery.outputs := by
        rw [outputs]
        exact .head _
      exact Console.grants_of_deliverAll done _ first
    obtain ⟨descriptor, opened, grants⟩ := granted
    cases grants with
    | descriptor other => cases named.symm.trans other
    | @file _ location _ _ leads vacant _ =>
        have leadsLater : host.LeadsTo (Outcome.ofWords host words input world).world.files token
            location := by
          rw [outcome, Outcome.world_ofResult]
          exact (Host.leadsTo_filled (Console.continues_deliverAll _ _ _).filled).2 leads
        rcases Task.sessionKey_written parsed asked named launches succeeds consumed decoded
          accepted (fun number isOpen => apart number location isOpen leadsLater) leadsLater
            vacant with ⟨failed, -⟩ | written
        · exact absurd done failed
        · exact Host.readInput_of_leadsTo named leadsLater written
  · rw [Outcome.ofWords_of_parsed parsed] at done
    change (Outcome.ofResult (task.plan.perform host config input world)).status = 0 at done
    rw [failed, Outcome.status_ofResult_eq_zero] at done
    cases done

end

/-- The line of a session key is read as the key, and the environment can carry it. -/
theorem Source.resolve_sessionKey {host : Host} {files : FileTree} {token : String}
    {key : SessionKey} (filled : key.key ≠ [])
    (read : host.readInput files token = .ok (Text.encode (key.render ++ "\n"))) :
    Source.resolve host files (.sessionKey token) = .ok (.sessionKey key) := by
  rw [Source.resolve_eq_ok_iff]
  exact .sessionKey read (Text.decode_encode _) (SessionKey.parse_line filled)

/-- A program that decrypts a message either fails before its backend is run, or it hands the
session key to it. -/
theorem Decrypting.sessionKey_handed {host : Host} {words : List Bytes} {input : Bytes}
    {world : World} {config : Config} {request : Decrypting} {number : Nat} {token : String}
    {key : SessionKey}
    (parsed : Invocation.parse host.lookup words = .ok ⟨config, .operate (.decrypt request)⟩)
    (given : request.sessionKeys[number]? = some token)
    (resolved : Source.resolve host world.files (.sessionKey token) = .ok (.sessionKey key)) :
    let name := "SESSION_KEY_" ++ String.ofList (Text.digits number)
    let outcome := Outcome.ofWords host words input world
    (outcome.status ≠ 0 ∧ outcome.world.calls = world.calls) ∨
      ∃ call, outcome.world.calls = call :: world.calls ∧
        "--with-session-key=" ++ (environmentMark ++ name) ∈ call.arguments ∧
        call.environment.get? name = some (Text.encode key.render) := by
  intro name outcome
  let task : Task := .decrypt request
  have ended : outcome = .ofResult (task.plan.perform host config input world) :=
    Outcome.ofWords_of_parsed parsed
  rcases task.calls_perform host config input world with
    uncalled | ⟨launch, call, launches, started, calls⟩
  · left
    rw [ended, Outcome.world_ofResult]
    refine ⟨?_, uncalled⟩
    rw [ne_eq, Outcome.status_ofResult_eq_zero]
    intro performed
    obtain ⟨launch, call, value, delivery, completes⟩ :=
      Task.exists_completes (Task.direct_of_hasSideOutputs rfl) performed
    have called : outcome.world.calls = call :: world.calls := by
      have delivered : outcome = _ := completes.outcome_eq rfl parsed
      rw [delivered, Outcome.world_ofResult, (Console.continues_deliverAll _ _ _).calls,
        completes.calls_settled]
    rw [ended, Outcome.world_ofResult, uncalled] at called
    exact List.cons_ne_self _ _ called.symm
  · right
    obtain ⟨distinct, bound, referred⟩ := sessionKey_launched launches given resolved
    obtain ⟨arguments, environment⟩ := Host.of_call started
    refine ⟨call, ?_, ?_, ?_⟩
    · rw [ended, Outcome.world_ofResult]
      exact calls
    · rw [arguments]
      exact .tail _ referred
    · rw [environment]
      exact host.get?_environmentFor_of_mem config distinct bound

/-- A session key that the backend reports for a message is relayed to a later decryption.
If a program is asked to write it to a file, the file that it makes holds the text form of
the key in a line of its own, also where the program fails after that.  Wherever this line is
given as one of several session keys, it is read as the same key, and the backend is handed
the text form of the key under the number at which it is given. -/
theorem session_keys_survive_relay {host : Host} {words : List Bytes} {input : Bytes}
    {world : World} {config : Config} {task : Task} {launch : Launch} {call : Call}
    {token path text : String} {data : Bytes} {key : SessionKey} {reached : Channels × FileTree}
    (parsed : Invocation.parse host.lookup words = .ok ⟨config, .operate task⟩)
    (asked : task.sessionKeyOut? = some token)
    (named : Designator.parse token = .ok (.file path))
    (launches : Request.Launches host config input world (.operate task) launch)
    (succeeds : launch.Succeeds host config call)
    (consumed : launch.channels.consume host.directory .sessionKey (launch.left host call) =
      (.ok (some data), reached))
    (decoded : Text.decode data = .ok text)
    (accepted : SessionKey.parse (Text.strip text) = .ok key)
    (apart : ∀ number location, host.descriptors.lookup number = some (.file location) →
      ¬ host.LeadsTo (Outcome.ofWords host words input world).world.files token location) :
    let line := Text.encode (key.render ++ "\n")
    let outcome := Outcome.ofWords host words input world
    (outcome.status = 0 → host.readInput outcome.world.files token = .ok line) ∧
      (∀ location entry, host.LeadsTo outcome.world.files token location →
        (launch.settled host task.plan.operation call).world.files.get? location = none →
        outcome.world.files.get? location = some entry → entry = .file line) ∧
      ∀ (later : Host) (laterWords : List Bytes) (laterInput : Bytes) (laterWorld : World)
        (laterConfig : Config) (request : Decrypting) (number : Nat) (again : String),
        Invocation.parse later.lookup laterWords =
            .ok ⟨laterConfig, .operate (.decrypt request)⟩ →
          request.sessionKeys[number]? = some again →
          later.readInput laterWorld.files again = .ok line →
          let name := "SESSION_KEY_" ++ String.ofList (Text.digits number)
          let laterOutcome := Outcome.ofWords later laterWords laterInput laterWorld
          Source.resolve later laterWorld.files (.sessionKey again) = .ok (.sessionKey key) ∧
            Binding.isPortable ⟨.sessionKey, number, Text.encode key.render⟩ = true ∧
            ((laterOutcome.status ≠ 0 ∧ laterOutcome.world.calls = laterWorld.calls) ∨
              ∃ call, laterOutcome.world.calls = call :: laterWorld.calls ∧
                "--with-session-key=" ++ (environmentMark ++ name) ∈ call.arguments ∧
                call.environment.get? name = some (Text.encode key.render)) := by
  intro line outcome
  refine ⟨?_, ?_, ?_⟩
  · exact Task.sessionKey_readable parsed asked named launches succeeds consumed decoded
      accepted apart
  · intro location entry leads vacant found
    rcases Task.sessionKey_written parsed asked named launches succeeds consumed decoded accepted
      (fun number isOpen => apart number location isOpen leads) leads vacant with
        ⟨-, nothing⟩ | written
    · cases found.symm.trans nothing
    · exact Option.some.inj (found.symm.trans written)
  · intro later laterWords laterInput laterWorld laterConfig request number again laterParsed
      given read name laterOutcome
    have resolved := Source.resolve_sessionKey (SessionKey.key_ne_nil_of_parse accepted) read
    refine ⟨resolved, ?_, Decrypting.sessionKey_handed laterParsed given resolved⟩
    simpa [Binding.isPortable] using key.zero_not_mem_encode_render

/-- A key with a leading zero, in both cases and on two lines, is written by an encryption
and given to a decryption as the second of two. -/
theorem broken_session_key_survives_relay :
    let host := { Host.bare (Environment.empty.set "CERT" (Text.encode "cert")) [] with
      backend := fun _ files => ⟨Text.encode "message", [],
        files.set [Path.ofText "tmp", Path.ofText "sop-scratch", Path.ofText "session-key-out"]
          (.file (Text.encode "\t009:aB\nfF \n")), some (.status 0)⟩ }
    let words := ["--backend", "/sop", "encrypt", "--session-key-out", "key", "@ENV:CERT"].map
      Text.encode
    let world : World :=
      ⟨⟨[([Path.ofText "tmp"], .directory), ([Path.ofText "sop"], .program [])]⟩, []⟩
    let later := Host.bare (Environment.empty.set "OTHER" (Text.encode "7:00")) []
    let laterWords := ["--backend", "/sop", "decrypt", "--with-session-key", "@ENV:OTHER",
      "--with-session-key", " ./key"].map Text.encode
    let key : SessionKey := ⟨9, [0xAB, 0xFF]⟩
    let outcome := Outcome.ofWords host words [] world
    let laterOutcome := Outcome.ofWords later laterWords [] outcome.world
    outcome.status = 0 ∧
      host.readInput outcome.world.files "key" = .ok (Text.encode "9:ABFF\n") ∧
      Source.resolve later outcome.world.files (.sessionKey " ./key") = .ok (.sessionKey key) ∧
      laterOutcome.status = 0 ∧
      ∃ call, laterOutcome.world.calls = call :: outcome.world.calls ∧
        "--with-session-key=@ENV:SESSION_KEY_1" ∈ call.arguments ∧
        call.environment.get? "SESSION_KEY_1" = some (Text.encode "9:ABFF") := by
  intro host words world later laterWords key
  dsimp only
  let config := Config.new (Path.ofText "/sop")
  let task := Task.encrypt ⟨false, none, none, [], [], [], some "key", none, ["@ENV:CERT"]⟩
  let path := Path.ofText "/tmp/sop-scratch/session-key-out"
  let command : Command := ⟨"/sop", "encrypt",
    ["@ENV:CERT_0", "--session-key-out=/tmp/sop-scratch/session-key-out"],
    [⟨.cert, 0, Text.encode "cert"⟩]⟩
  let channels : Channels :=
    ⟨.system, some (Path.ofText "/tmp/sop-scratch"), [(.sessionKey, path)]⟩
  let made := world.files.set [Path.ofText "tmp", Path.ofText "sop-scratch"] .directory
  have parsed : Invocation.parse host.lookup words = .ok ⟨config, .operate task⟩ := by
    decide +kernel
  have named : Designator.parse "key" = .ok (.file "key") := by decide +kernel
  have prepared : task.plan.operation.prepare host config [.cert (Text.encode "cert")] []
      world.files = (.ok ⟨config, command, some [], channels⟩, made) := by
    dsimp only [host, world, config, task, command, channels, path, made]
    rfl
  let launch : Launch := ⟨command, some [], channels, world.files, ⟨made, []⟩⟩
  let call : Call := ⟨command.arguments, host.environmentFor config command, [], []⟩
  have launches : Request.Launches host config [] world (.operate task) launch :=
    .task rfl prepared (by decide)
  have started : host.call config command (some []) made = .ok call := by decide +kernel
  have completed : launch.Succeeds host config call := ⟨started, rfl⟩
  have consumed : ∃ reached, launch.channels.consume host.directory .sessionKey
      (launch.left host call) = (.ok (some (Text.encode "\t009:aB\nfF \n")), reached) :=
    ⟨_, rfl⟩
  obtain ⟨reached, consumed⟩ := consumed
  have apart : ∀ number location, host.descriptors.lookup number = some (.file location) →
      ¬ host.LeadsTo (Outcome.ofWords host words [] world).world.files "key" location := by
    intro number location isOpen
    simp only [host, Host.bare, List.lookup_cons, List.lookup_nil] at isOpen
    split at isOpen
    · cases isOpen
    · split at isOpen <;> cases isOpen
  have accepted : SessionKey.parse (Text.strip "\t009:aB\nfF \n") = .ok key := by
    decide +kernel
  have succeeds : (Outcome.ofWords host words [] world).status = 0 := by decide +kernel
  obtain ⟨readable, -, relayed⟩ := session_keys_survive_relay parsed rfl named launches
    completed consumed (Text.decode_encode _) accepted apart
  have readAgain : later.readInput (Outcome.ofWords host words [] world).world.files " ./key" =
      .ok (Text.encode (key.render ++ "\n")) := by decide +kernel
  have laterParsed : Invocation.parse later.lookup laterWords = .ok ⟨config, .operate (.decrypt
      ⟨none, ["@ENV:OTHER", " ./key"], [], none, [], none, none, [], []⟩)⟩ := by
    decide +kernel
  have laterSucceeds : (Outcome.ofWords later laterWords []
      (Outcome.ofWords host words [] world).world).status = 0 := by decide +kernel
  obtain ⟨resolved, -, ended⟩ := relayed later laterWords []
    (Outcome.ofWords host words [] world).world config _ 1 " ./key" laterParsed rfl readAgain
  have rendered : key.render = "9:ABFF" := by decide +kernel
  rw [rendered] at readable ended
  refine ⟨succeeds, readable succeeds, resolved, laterSucceeds, ?_⟩
  exact ended.resolve_left fun failed => failed.1 laterSucceeds

end Cli

end StatelessPgp
