import StatelessPgp.Proofs.Channels.Release
import StatelessPgp.Proofs.Operation.Preparation
import StatelessPgp.Proofs.Operation.Reading

/-!
# How invocations end

A run goes through stages, and the earliest one that fails decides its result,
whatever a backend leaves in the side channels.  However an invocation ends, and
also if it is never run, the files are afterwards what they were before it was made
ready.
-/

namespace StatelessPgp

open FileTree

/-- Secrets are refused for the first that the environment cannot carry. -/
theorem Secrets.validate_cases (secrets : Secrets) :
    (secrets.validate = .ok () ∧ ∀ binding ∈ secrets, binding.isPortable = true) ∨
      ∃ earlier binding later, secrets = earlier ++ binding :: later ∧
        (∀ other ∈ earlier, other.isPortable = true) ∧ binding.isPortable = false ∧
        secrets.validate = .error (.new .badData
          ("Secret " ++ binding.name ++ " contains a NUL byte and cannot be passed " ++
            "through the environment; pass armored data instead")) := by
  rw [validate]
  cases found : secrets.find? fun binding => !binding.isPortable with
  | none =>
      refine .inl ⟨rfl, ?_⟩
      intro binding member
      simpa using List.find?_eq_none.1 found binding member
  | some binding =>
      obtain ⟨refused, earlier, later, rfl, first⟩ :=
        List.find?_eq_some_iff_append.1 found
      refine .inr ⟨earlier, binding, later, rfl, ?_, by simpa using refused, rfl⟩
      intro other member
      simpa using first other member

theorem Secrets.validate_of_portable {secrets : Secrets}
    (portable : ∀ binding ∈ secrets, binding.isPortable = true) :
    secrets.validate = .ok () := by
  have none_refused : (secrets.find? fun binding => !binding.isPortable) = none := by
    simpa using portable
  rw [validate, none_refused]

/-- A status other than zero is a failure. -/
theorem Failure.ofStatus_error {status : Int} (report : String) (failed : status ≠ 0) :
    ∃ failure, Failure.ofStatus status report = .error failure := by
  rw [ofStatus, if_neg failed]
  split <;> exact ⟨_, rfl⟩

namespace Operation

variable {operation : Operation}

theorem recover_eq (direct : operation ≠ .validateUserId) (failure : Failure) :
    operation.recover failure = .error failure := by
  cases operation with
  | validateUserId => exact absurd rfl direct
  | _ => rfl

end Operation

namespace Command

variable {command : Command} {host : Host} {config : Config} {input : Option Bytes}
variable {world : World}

theorem execute_of_invalid {failure : Failure}
    (invalid : command.secrets.validate = .error failure) :
    command.execute host config input world = ⟨[], .error failure, world⟩ := by
  rw [execute, run, validate, invalid]
  rfl

theorem execute_of_unstarted {reason : SystemError}
    (valid : command.secrets.validate = .ok ())
    (called : host.call config command input world.files = .error reason) :
    command.execute host config input world =
      ⟨[], .error (.spawn command.program reason), world⟩ := by
  rw [execute, run, validate, valid, called]
  rfl

theorem execute_of_started {call : Call} (valid : command.secrets.validate = .ok ())
    (called : host.call config command input world.files = .ok call) :
    command.execute host config input world =
      ⟨(host.backend call world.files).output,
        ((host.backend call world.files).outcome config).bind Completed.check,
        ⟨(host.backend call world.files).files, call :: world.calls⟩⟩ := by
  rw [execute, run, validate, valid, called]

/-- A backend that ends with status zero has succeeded. -/
theorem execute_of_succeeded {call : Call} (valid : command.secrets.validate = .ok ())
    (called : host.call config command input world.files = .ok call)
    (exited : (host.backend call world.files).exit = some (.status 0)) :
    ∃ completed, command.execute host config input world =
      ⟨(host.backend call world.files).output, .ok completed,
        ⟨(host.backend call world.files).files, call :: world.calls⟩⟩ := by
  rw [execute_of_started valid called, Conduct.outcome, exited]
  exact ⟨_, rfl⟩

/-- The files after a command are those before it or those that a backend leaves. -/
theorem execute_files (command : Command) (host : Host) (config : Config)
    (input : Option Bytes) (world : World) :
    (command.execute host config input world).world.files = world.files ∨
      ∃ call, host.call config command input world.files = .ok call ∧
        (command.execute host config input world).world.files =
          (host.backend call world.files).files := by
  rcases command.secrets.validate_cases with
    ⟨valid, -⟩ | ⟨_, _, _, -, -, -, invalid⟩
  · cases called : host.call config command input world.files with
    | error reason => exact .inl (by rw [execute_of_unstarted valid called])
    | ok call => exact .inr ⟨call, rfl, by rw [execute_of_started valid called]⟩
  · exact .inl (by rw [execute_of_invalid invalid])

end Command

namespace Operation

variable {operation : Operation} {host : Host} {before : FileTree}

theorem owned_reserveAll (closed : before.Closed) (options : List (String × Channel))
    {draft : Draft} {channels : Channels} {files : FileTree}
    (owned : channels.Owned host.directory before files) :
    (reserveAll host draft channels files options).2.1.Owned host.directory before
      (reserveAll host draft channels files options).2.2 := by
  induction options generalizing draft channels files with
  | nil => exact owned
  | cons option rest hypothesis =>
      have reserved := owned.reserve closed option.2
      rw [reserveAll]
      generalize channels.reserve host option.2 files = outcome at reserved ⊢
      obtain ⟨error | path, channels, files⟩ := outcome
      · exact reserved
      · exact hypothesis reserved

/-- An operation that is ready owns its private directory, and one that could not be
made ready leaves nothing. -/
theorem prepare_owned (closed : before.Closed) {config : Config}
    {settings : List Setting} {input : Bytes} {files : FileTree}
    {prepared : Except Failure (Ready operation)}
    (made : operation.prepare host config settings input before = (prepared, files)) :
    match prepared with
    | .error _ => files.SameEntries before
    | .ok ready => ready.channels.Owned host.directory before files := by
  unfold prepare at made
  split at made
  · cases made
    exact fun _ => rfl
  · next completed complete =>
      have reserved := @owned_reserveAll host before closed
        (operation.channelOptions settings) completed _ _
        (Channels.Owned.new before config.scratchParent)
      split at made
      · next error channels left reserve =>
          cases made
          rw [reserve] at reserved
          exact reserved.release closed
      · next draft channels left reserve =>
          cases made
          rw [reserve] at reserved
          exact reserved

end Operation

namespace Ready

variable {operation : Operation}

/-- How a run ends: with which calls made and with which result.  The stages come in
the order of the cases, and each case has passed the stages before its own. -/
inductive Ends (ready : Ready operation) (host : Host) (world : World) :
    List Call → Except Failure operation.Result → Prop where
  | unportable {earlier later : Secrets} {binding : Binding}
      (secrets : ready.command.secrets = earlier ++ binding :: later)
      (first : ∀ other ∈ earlier, other.isPortable = true)
      (refused : binding.isPortable = false) :
      Ends ready host world world.calls (.error (.new .badData
        ("Secret " ++ binding.name ++ " contains a NUL byte and cannot be passed " ++
          "through the environment; pass armored data instead")))
  | unstarted {reason : SystemError}
      (portable : ∀ binding ∈ ready.command.secrets, binding.isPortable = true)
      (refused : host.call ready.config ready.command ready.input world.files =
        .error reason) :
      Ends ready host world world.calls (.error (.spawn ready.command.program reason))
  | overdue {call : Call} {limit : Duration}
      (portable : ∀ binding ∈ ready.command.secrets, binding.isPortable = true)
      (started : host.call ready.config ready.command ready.input world.files = .ok call)
      (hangs : (host.backend call world.files).exit = none)
      (limited : ready.config.timeout = some limit) :
      Ends ready host world (call :: world.calls) (.error (.timeout limit))
  | stopped {call : Call}
      (portable : ∀ binding ∈ ready.command.secrets, binding.isPortable = true)
      (started : host.call ready.config ready.command ready.input world.files = .ok call)
      (hangs : (host.backend call world.files).exit = none)
      (unlimited : ready.config.timeout = none) :
      Ends ready host world (call :: world.calls) (.error (.terminated none))
  | terminated {call : Call} {signal : Option Int}
      (portable : ∀ binding ∈ ready.command.secrets, binding.isPortable = true)
      (started : host.call ready.config ready.command ready.input world.files = .ok call)
      (signalled : (host.backend call world.files).exit = some (.signal signal)) :
      Ends ready host world (call :: world.calls) (.error (.terminated signal))
  | refused {call : Call} {status : Int} {failure : Failure}
      (portable : ∀ binding ∈ ready.command.secrets, binding.isPortable = true)
      (started : host.call ready.config ready.command ready.input world.files = .ok call)
      (exited : (host.backend call world.files).exit = some (.status status))
      (failed : status ≠ 0)
      (means : Failure.ofStatus status (keptReport ready.config.reportLimit
        (host.backend call world.files).report) = .error failure) :
      Ends ready host world (call :: world.calls) (.error failure)
  | finished {call : Call}
      (portable : ∀ binding ∈ ready.command.secrets, binding.isPortable = true)
      (started : host.call ready.config ready.command ready.input world.files = .ok call)
      (exited : (host.backend call world.files).exit = some (.status 0)) :
      Ends ready host world (call :: world.calls)
        ((operation.finish (host.backend call world.files).output host.directory).run
          (ready.channels, (host.backend call world.files).files) : _ × _).1

variable {ready : Ready operation} {host : Host} {world : World}

theorem Ends.of_ok {calls : List Call} {result : Except Failure operation.Result}
    {value : operation.Result} (ends : ready.Ends host world calls result)
    (succeeded : result = .ok value) :
    (∀ binding ∈ ready.command.secrets, binding.isPortable = true) ∧
      ∃ call, host.call ready.config ready.command ready.input world.files = .ok call ∧
        (host.backend call world.files).exit = some (.status 0) ∧
        ((operation.finish (host.backend call world.files).output host.directory).run
          (ready.channels, (host.backend call world.files).files) : _ × _).1 =
            .ok value := by
  cases ends with
  | finished portable started exited => exact ⟨portable, _, started, exited, succeeded⟩
  | unportable | unstarted | overdue | stopped | terminated | refused => cases succeeded

/-- Where executing the command fails, the run fails the same way. -/
theorem run_of_error {failure : Failure} {output : Bytes} {after : World}
    (direct : operation ≠ .validateUserId)
    (executed : ready.command.execute host ready.config ready.input world =
      ⟨output, .error failure, after⟩) :
    (ready.run host world).result = .error failure ∧
      (ready.run host world).world.calls = after.calls := by
  unfold run
  rw [executed]
  exact ⟨operation.recover_eq direct failure, rfl⟩

/-- Where it succeeds, the side channels are read. -/
theorem run_of_ok {completed : Completed} {output : Bytes} {after : World}
    (executed : ready.command.execute host ready.config ready.input world =
      ⟨output, .ok completed, after⟩) :
    (ready.run host world).result =
        ((operation.finish output host.directory).run (ready.channels, after.files) :
          _ × _).1 ∧
      (ready.run host world).world.calls = after.calls := by
  unfold run
  rw [executed]
  exact ⟨rfl, rfl⟩

/-- Every run ends with the earliest stage that fails, or with what was read. -/
theorem ends_run (ready : Ready operation) (host : Host) (world : World)
    (direct : operation ≠ .validateUserId) :
    ready.Ends host world (ready.run host world).world.calls
      (ready.run host world).result := by
  rcases ready.command.secrets.validate_cases with
    ⟨valid, portable⟩ | ⟨earlier, binding, later, secrets, first, refused, invalid⟩
  · cases called : host.call ready.config ready.command ready.input world.files with
    | error reason =>
        have executed := Command.execute_of_unstarted valid called
        obtain ⟨result, calls⟩ := run_of_error direct executed
        rw [result, calls]
        exact .unstarted portable called
    | ok call =>
        have executed := Command.execute_of_started valid called
        rw [Conduct.outcome] at executed
        cases exited : (host.backend call world.files).exit with
        | none =>
            rw [exited] at executed
            cases limited : ready.config.timeout with
            | none =>
                rw [limited] at executed
                obtain ⟨result, calls⟩ := run_of_error direct executed
                rw [result, calls]
                exact .stopped portable called exited limited
            | some limit =>
                rw [limited] at executed
                obtain ⟨result, calls⟩ := run_of_error direct executed
                rw [result, calls]
                exact .overdue portable called exited limited
        | some exit =>
            rw [exited] at executed
            cases exit with
            | signal number =>
                obtain ⟨result, calls⟩ := run_of_error direct executed
                rw [result, calls]
                exact .terminated portable called exited
            | status status =>
                by_cases succeeded : status = 0
                · subst succeeded
                  obtain ⟨result, calls⟩ := run_of_ok executed
                  rw [result, calls]
                  exact .finished portable called exited
                · obtain ⟨failure, means⟩ := Failure.ofStatus_error
                    (keptReport ready.config.reportLimit
                      (host.backend call world.files).report) succeeded
                  simp only [Except.bind, Completed.check, means, bind] at executed
                  obtain ⟨result, calls⟩ := run_of_error direct executed
                  rw [result, calls]
                  exact .refused portable called exited succeeded means
  · obtain ⟨result, calls⟩ := run_of_error direct (Command.execute_of_invalid invalid)
    rw [result, calls]
    exact .unportable secrets first refused

/-- After a run, the files are what they were before the operation was made ready. -/
theorem sameEntries_run {before : FileTree} (closed : before.Closed)
    (owned : ready.channels.Owned host.directory before world.files)
    (confined : ∀ call,
      host.call ready.config ready.command ready.input world.files = .ok call →
        ready.channels.Confined host.directory world.files
          (host.backend call world.files).files) :
    (ready.run host world).world.files.SameEntries before := by
  have executed : ready.channels.Owned host.directory before
      (ready.command.execute host ready.config ready.input world).world.files := by
    rcases ready.command.execute_files host ready.config ready.input world with
      same | ⟨call, called, same⟩
    · rwa [same]
    · rw [same]
      exact owned.confined closed (confined call called)
  unfold run
  generalize ready.command.execute host ready.config ready.input world = outcome at executed ⊢
  obtain ⟨output, failure | completed, after⟩ := outcome
  · exact executed.release closed
  · have keeps : ChannelReader.Keeps
        (fun state => state.1.Owned host.directory before state.2) host.directory
        (operation.finish output) := by
      apply ChannelReader.keeps_finish
      intro channel channels files kept
      exact kept.consume closed channel
    have finished := keeps (ready.channels, after.files) executed
    exact finished.release closed

end Ready

/-- A run ends with the earliest stage that fails, and succeeds only if none does.
Where a backend keeps to the private directory, which holds the files of all reserved
channels, the files are afterwards what they were before: when the operation has been
run or dropped, and when it could not be made ready. -/
theorem invocation_ends_and_cleans_up {operation : Operation} {host : Host}
    {config : Config} {settings : List Setting} {input : Bytes} {files made : FileTree}
    {prepared : Except Failure (Ready operation)} (closed : files.Closed)
    (makes : operation.prepare host config settings input files = (prepared, made)) :
    (∀ failure, prepared = .error failure → made.SameEntries files) ∧
      ∀ ready, prepared = .ok ready →
        (operation ≠ .validateUserId → ∀ world,
          ready.Ends host world (ready.run host world).world.calls
              (ready.run host world).result ∧
            ∀ value, (ready.run host world).result = .ok value →
              (∀ binding ∈ ready.command.secrets, binding.isPortable = true) ∧
              ∃ call, host.call ready.config ready.command ready.input world.files =
                  .ok call ∧
                (host.backend call world.files).exit = some (.status 0) ∧
                ((operation.finish (host.backend call world.files).output
                  host.directory).run (ready.channels,
                    (host.backend call world.files).files) : _ × _).1 = .ok value) ∧
        (∀ entry ∈ ready.channels.reserved, ∀ location below,
          made.resolveName host.directory entry.2 = .ok location → location <+: below →
            ready.channels.Private host.directory made below) ∧
        (ready.drop host made).SameEntries files ∧
        ((∀ call, host.call ready.config ready.command ready.input made = .ok call →
            ready.channels.Confined host.directory made (host.backend call made).files) →
          ∀ calls, (ready.run host ⟨made, calls⟩).world.files.SameEntries files) := by
  have kept := Operation.prepare_owned closed makes
  refine ⟨?_, ?_⟩
  · rintro failure rfl
    exact kept
  · rintro ready rfl
    refine ⟨?_, ?_, kept.release closed, ?_⟩
    · intro direct world
      have ends := ready.ends_run host world direct
      exact ⟨ends, fun value succeeded => ends.of_ok succeeded⟩
    · intro entry reserved location below leads inside
      exact kept.isPrivate closed reserved leads inside
    · intro confined calls
      exact Ready.sameEntries_run closed kept confined

theorem invocation_cleans_up_directory :
    let place : Location := [Path.ofText "sop-scratch", Path.ofText "micalg-out"]
    let host := { Host.bare .empty [] with
      backend := fun _ files => ⟨[], [], files.set place .directory, some (.status 0)⟩ }
    let config := { Config.new (Path.ofText "/sop") with
      scratchParent := .within (Path.ofText "/") }
    let files : FileTree := ⟨[([Path.ofText "sop"], .program [])]⟩
    ∃ (ready : Ready .sign) (made : FileTree), files.Closed ∧
      Operation.sign.prepare host config [] [] files = (.ok ready, made) ∧
      made.get? place.dropLast = some .directory ∧
      (∀ call, ready.channels.Confined host.directory made (host.backend call made).files) ∧
      (ready.run host ⟨made, []⟩).world.files.SameEntries files := by
  intro place host config files
  have closed : files.Closed := by
    intro location name found
    have same : location ++ [name] = [Path.ofText "sop"] := by
      by_contra differs
      apply found
      rw [files.get?_of_ne_root (by simp)]
      exact lookup_of_not_mem (by simpa [files] using differs)
    have root : location = [] := by
      have length := congrArg List.length same
      rw [List.length_append] at length
      exact List.eq_nil_of_length_eq_zero (Nat.succ.inj length)
    rw [root]
    exact files.isDirectory_root
  obtain ⟨-, allowed, -, cleans⟩ := (invocation_ends_and_cleans_up closed
    (rfl : Operation.sign.prepare host config [] [] files = (.ok _, _))).2 _ rfl
  have inside := allowed _ (.head _) place place rfl (List.prefix_refl place)
  refine ⟨_, _, closed, rfl, rfl, ?confined, cleans (fun call _ => ?confined call) []⟩
  intro call location apart
  apply get?_set_of_ne
  rintro rfl
  exact apart inside

end StatelessPgp
