import StatelessPgp.Cli.Outcome
import StatelessPgp.Proofs.Operation.Ending

/-!
# Launches

A request comes to run the backend once everything has been checked: an operation does so
once, and an inquiry once or twice.  When such a run fails, the program exits with the
status by which the backend named a kind of failure, and with one otherwise.
-/

namespace StatelessPgp

open FileTree

namespace Kind

@[simp] theorem ofStatus?_status (kind : Kind) : ofStatus? kind.status = some kind := by
  cases kind <;> decide

theorem status_inj {kind other : Kind} (same : kind.status = other.status) : kind = other := by
  rw [← Option.some_inj, ← ofStatus?_status kind, same, ofStatus?_status]

theorem ofStatus?_eq_none {code : Int} (unlisted : ∀ kind : Kind, (kind.status : Int) ≠ code) :
    ofStatus? code = none := by
  rw [ofStatus?, List.find?_eq_none]
  intro kind _
  simpa using unlisted kind

theorem status_lt (kind : Kind) : kind.status < 256 := by
  cases kind <;> decide

theorem status_ne_zero (kind : Kind) : kind.status ≠ 0 := by
  cases kind <;> decide

end Kind

namespace Failure

theorem ofStatus_status (kind : Kind) (report : String) :
    ∃ failure, ofStatus kind.status report = .error failure ∧
      failure.status = kind.status := by
  have failed : (kind.status : Int) ≠ 0 := by exact_mod_cast kind.status_ne_zero
  rw [ofStatus, if_neg failed, Kind.ofStatus?_status]
  exact ⟨_, rfl, rfl⟩

theorem ofStatus_unlisted {code : Int} (failed : code ≠ 0)
    (unknown : ∀ kind : Kind, (kind.status : Int) ≠ code) (report : String) :
    ∃ failure, ofStatus code report = .error failure ∧ failure.status = 1 := by
  rw [ofStatus, if_neg failed, Kind.ofStatus?_eq_none unknown]
  exact ⟨_, rfl, rfl⟩

/-- Whatever messages are put over a failure, it is reported by the same status. -/
theorem status_contexts (failure : Failure) (messages : List String) :
    (messages.foldr Failure.context failure).status = failure.status := by
  induction messages with
  | nil => rfl
  | cons message rest hypothesis => exact hypothesis

end Failure

namespace VersionQuery

variable {host : Host} {config : Config} {world : World}

theorem askBanner_of_error {failure : Failure} {after : World}
    (asked : name.ask host config world = ⟨[], .error failure, after⟩) :
    askBanner host config world = ⟨[], .error failure, after⟩ := by
  delta askBanner
  rw [asked]

theorem askBanner_of_ok {program : String}
    (named : (name.ask host config world).result = .ok program) :
    askBanner host config world =
      (version.ask host config (name.ask host config world).world).andThen
        fun number => .ok (program ++ " " ++ number) := by
  delta askBanner
  dsimp only
  rw [named]

end VersionQuery

namespace Cli

/-- A run of the backend to which a request comes. -/
structure Launch where
  command : Command
  input : Option Bytes
  channels : Channels
  /-- The files before anything has been made ready. -/
  before : FileTree
  world : World

/-- The run of an inquiry. -/
def Launch.ofInquiry (config : Config) (subcommand : String) (words : List String)
    (world : World) : Launch :=
  ⟨inquiry config subcommand words, none, .new config.scratchParent, world.files, world⟩

/-- The runs to which a request comes, in which everything that comes before has
succeeded. -/
inductive Request.Launches (host : Host) (config : Config) (input : Bytes)
    (world : World) : Request → Launch → Prop where
  | task {task : Task} {settings : List Setting} {ready : Ready task.plan.operation}
      {made : FileTree} (checked : task.plan.settings host world.files = .ok settings)
      (prepared : task.plan.operation.prepare host config settings input world.files =
        (.ok ready, made))
      (portable : ∀ binding ∈ ready.command.secrets, binding.isPortable = true) :
      Launches host config input world (.operate task)
        ⟨ready.command, ready.input, ready.channels, world.files, { world with files := made }⟩
  | query (query : VersionQuery) :
      Launches host config input world (.inquire (.version (some query)))
        (.ofInquiry config "version" query.option?.toList world)
  | name :
      Launches host config input world (.inquire (.version none))
        (.ofInquiry config "version" [] world)
  | number {program : String}
      (named : (VersionQuery.name.ask host config world).result = .ok program) :
      Launches host config input world (.inquire (.version none))
        (.ofInquiry config "version" [] (VersionQuery.name.ask host config world).world)
  | profiles (subcommand : String) :
      Launches host config input world (.inquire (.profiles subcommand))
        (.ofInquiry config "list-profiles" [subcommand] world)

/-- The status that stands for a failed end of the backend. -/
inductive StandsFor : Nat → Option Exit → Prop where
  | listed (kind : Kind) : StandsFor kind.status (some (.status kind.status))
  | unlisted {code : Int} (failed : code ≠ 0)
      (unknown : ∀ kind : Kind, (kind.status : Int) ≠ code) :
      StandsFor 1 (some (.status code))
  | signalled (number : Option Int) : StandsFor 1 (some (.signal number))
  /-- It does not end by itself, and is stopped at the deadline or by somebody else. -/
  | unending : StandsFor 1 none

/-- How the run of a launch fails: the status that stands for the failure, what the
backend wrote to its standard output, and the files that it left. -/
inductive Launch.Fails (host : Host) (config : Config) (launch : Launch) :
    Nat → Bytes → FileTree → Prop where
  | unstarted {reason : SystemError}
      (refused : host.call config launch.command launch.input launch.world.files =
        .error reason) :
      Fails host config launch 1 [] launch.world.files
  | ended {call : Call} {status : Nat}
      (started : host.call config launch.command launch.input launch.world.files = .ok call)
      (failed : StandsFor status (host.backend call launch.world.files).exit) :
      Fails host config launch status (host.backend call launch.world.files).output
        (host.backend call launch.world.files).files

/-- Whether a request has the output of the backend for its own. -/
def Request.isStreamed : Request → Bool
  | .inquire _ => false
  | .operate (.verify _ _ _ _) => false
  | .operate (.validateUserId _ _ _ _) => false
  | .operate _ => true

theorem Task.isStreamed_plan (task : Task) :
    task.plan.operation.isStreamed = (Request.operate task).isStreamed := by
  cases task <;> rfl

theorem StandsFor.outcome {status : Nat} {conduct : Conduct}
    (failed : StandsFor status conduct.exit) (config : Config) :
    ∃ failure, (conduct.outcome config).bind Completed.check = .error failure ∧
      failure.status = status := by
  rw [Conduct.outcome]
  cases ended : conduct.exit with
  | none =>
      rw [ended] at failed
      cases failed
      cases config.timeout <;> exact ⟨_, rfl, rfl⟩
  | some exit =>
      rw [ended] at failed
      cases failed with
      | listed kind =>
          obtain ⟨failure, means, reported⟩ := Failure.ofStatus_status kind
            (keptReport config.reportLimit conduct.report)
          refine ⟨failure, ?_, reported⟩
          simp only [Except.bind, Completed.check, means, bind]
      | unlisted failed unknown =>
          obtain ⟨failure, means, reported⟩ := Failure.ofStatus_unlisted failed unknown
            (keptReport config.reportLimit conduct.report)
          refine ⟨failure, ?_, reported⟩
          simp only [Except.bind, Completed.check, means, bind]
      | signalled number => exact ⟨_, rfl, rfl⟩

/-- A failed run yields a failure that is reported by the status that stands for it. -/
theorem Launch.Fails.execute_eq {host : Host} {config : Config} {launch : Launch}
    {status : Nat} {output : Bytes} {left : FileTree}
    (fails : launch.Fails host config status output left)
    (valid : launch.command.secrets.validate = .ok ()) :
    ∃ failure calls,
      launch.command.execute host config launch.input launch.world =
          ⟨output, .error failure, ⟨left, calls⟩⟩ ∧
        failure.status = status := by
  cases fails with
  | unstarted refused =>
      rw [Command.execute_of_unstarted valid refused]
      exact ⟨_, _, rfl, rfl⟩
  | ended started failed =>
      obtain ⟨failure, judged, reported⟩ := failed.outcome config
      rw [Command.execute_of_started valid started, judged]
      exact ⟨failure, _, rfl, reported⟩

/-- What is done with the result of an operation keeps the status of its failure. -/
theorem Task.deliver_recover (task : Task) (failure : Failure) :
    ∃ reported,
      (task.plan.operation.recover failure).bind task.plan.deliver = .error reported ∧
        reported.status = failure.status := by
  cases task with
  | validateUserId addrSpecOnly validateAt userId authorities =>
      by_cases unmatched : failure.kind = .certUserIdNoMatch
      · -- The answer is that nothing matches, which is then reported as the same failure.
        refine ⟨.new .certUserIdNoMatch
          ("No certificate carries a valid user ID '" ++ userId ++ "'."), ?_, ?_⟩
        · change (if failure.kind = .certUserIdNoMatch then .ok false else .error failure :
            Except Failure Bool).bind (deliverMatch userId) = _
          rw [if_pos unmatched]
          rfl
        · rw [Failure.status, Failure.status, unmatched]
          rfl
      · refine ⟨failure, ?_, rfl⟩
        change (if failure.kind = .certUserIdNoMatch then .ok false else .error failure :
          Except Failure Bool).bind (deliverMatch userId) = _
        rw [if_neg unmatched]
        rfl
  | _ => exact ⟨failure, rfl, rfl⟩

section

variable {host : Host} {config : Config} {input : Bytes} {world : World}
variable {status : Nat} {output : Bytes} {left : FileTree}

theorem Launch.Fails.inquire_eq {subcommand : String} {words : List String}
    (fails : (Launch.ofInquiry config subcommand words world).Fails host config status
      output left) :
    ∃ failure calls,
      inquire host config subcommand words world = ⟨[], .error failure, ⟨left, calls⟩⟩ ∧
        failure.status = status := by
  obtain ⟨failure, calls, executed, reported⟩ := fails.execute_eq rfl
  refine ⟨failure, calls, ?_, reported⟩
  change (inquiry config subcommand words).execute host config none world = _ at executed
  rw [inquire, executed]
  rfl

theorem Launch.Fails.ask_eq (query : VersionQuery)
    (fails : (Launch.ofInquiry config "version" query.option?.toList world).Fails host
      config status output left) :
    ∃ failure calls, query.ask host config world = ⟨[], .error failure, ⟨left, calls⟩⟩ ∧
      failure.status = status := by
  obtain ⟨failure, calls, asked, reported⟩ := fails.inquire_eq
  refine ⟨failure, calls, ?_, reported⟩
  rw [VersionQuery.ask, asked]
  rfl

/-- An inquiry has no private directory in which a backend may change anything. -/
theorem Launch.Fails.sameEntries {subcommand : String} {words : List String}
    (fails : (Launch.ofInquiry config subcommand words world).Fails host config status
      output left)
    (confined : ∀ call, host.call config (inquiry config subcommand words) none
        world.files = .ok call →
      (Channels.new config.scratchParent).Confined host.directory world.files
        (host.backend call world.files).files) : left.SameEntries world.files := by
  cases fails with
  | unstarted => exact fun _ => rfl
  | @ended call _ started =>
      intro location
      apply confined call started location
      rintro ⟨path, place, opened, -⟩
      cases opened

/-- How a request is reported when a run to which it has come fails. -/
theorem Request.perform_of_fails {request : Request} {launch : Launch}
    (launches : Request.Launches host config input world request launch)
    (fails : launch.Fails host config status output left) :
    ∃ failure files calls,
      request.perform host config input world =
          (.error failure, ⟨if request.isStreamed then output else [], [], ⟨files, calls⟩⟩) ∧
        failure.status = status ∧ files.IsPart left ∧
        (launch.before.Closed →
          (∀ call, host.call config launch.command launch.input launch.world.files =
              .ok call →
            launch.channels.Confined host.directory launch.world.files
              (host.backend call launch.world.files).files) →
          files.SameEntries launch.before) := by
  cases launches with
  | @task task settings ready made checked prepared portable =>
      have same := Operation.prepare_config prepared
      have valid := Secrets.validate_of_portable portable
      obtain ⟨failure, calls, executed, reported⟩ := fails.execute_eq valid
      obtain ⟨told, delivered, kept⟩ := task.deliver_recover failure
      have ran : ready.run host { world with files := made } =
          ⟨if (Request.operate task).isStreamed then output else [],
            task.plan.operation.recover failure,
            ⟨ready.channels.release host.directory left, calls⟩⟩ := by
        rw [Ready.run, same, executed, Task.isStreamed_plan]
      refine ⟨told, ready.channels.release host.directory left, calls, ?_,
        kept.trans reported, ready.channels.isPart_release host.directory left, ?_⟩
      · change task.plan.perform host config input world = _
        rw [Plan.perform, checked]
        dsimp only
        rw [Operation.invoke, prepared]
        dsimp only
        rw [ran, delivered]
        rfl
      · intro closed confined
        have owned := Operation.prepare_owned closed prepared
        subst same
        have restored := Ready.sameEntries_run closed owned confined
        rwa [ran] at restored
  | query query =>
      obtain ⟨failure, calls, asked, reported⟩ := fails.ask_eq query
      refine ⟨failure, left, calls, ?_, reported, .refl left, fun _ => fails.sameEntries⟩
      change answer (query.ask host config world |>.andThen _) = _
      rw [asked]
      rfl
  | name =>
      obtain ⟨failure, calls, asked, reported⟩ := fails.ask_eq .name
      refine ⟨failure, left, calls, ?_, reported, .refl left, fun _ => fails.sameEntries⟩
      change answer (VersionQuery.askBanner host config world |>.andThen _) = _
      rw [VersionQuery.askBanner_of_error asked]
      rfl
  | number named =>
      obtain ⟨failure, calls, asked, reported⟩ := fails.ask_eq .version
      refine ⟨failure, left, calls, ?_, reported, .refl left, fun _ => fails.sameEntries⟩
      change answer (VersionQuery.askBanner host config world |>.andThen _) = _
      rw [VersionQuery.askBanner_of_ok named, asked]
      rfl
  | profiles subcommand =>
      obtain ⟨failure, calls, asked, reported⟩ := fails.inquire_eq
      refine ⟨failure, left, calls, ?_, reported, .refl left, fun _ => fails.sameEntries⟩
      change answer (Profile.list subcommand host config world |>.andThen _) = _
      rw [Profile.list, asked]
      rfl

end

theorem Outcome.ofWords_of_parsed {host : Host} {words : List Bytes}
    {invocation : Invocation} (parsed : Invocation.parse host.lookup words = .ok invocation)
    {input : Bytes} {world : World} :
    ofWords host words input world =
      ofResult (invocation.request.perform host invocation.config input world) := by
  rw [ofWords, parsed]

/-- Only the status zero does not stand for a failure. -/
theorem exists_standsFor {exit : Option Exit} (failed : exit ≠ some (.status 0)) :
    ∃ status, StandsFor status exit := by
  cases exit with
  | none => exact ⟨1, .unending⟩
  | some exit =>
      cases exit with
      | signal number => exact ⟨1, .signalled number⟩
      | status code =>
          by_cases listed : ∃ kind : Kind, (kind.status : Int) = code
          · obtain ⟨kind, rfl⟩ := listed
            exact ⟨kind.status, .listed kind⟩
          · have nonzero : code ≠ 0 := by
              rintro rfl
              exact failed rfl
            exact ⟨1, .unlisted nonzero fun kind same => listed ⟨kind, same⟩⟩

/-- Every run in which the backend does not end with status zero fails. -/
theorem Launch.exists_fails {host : Host} {config : Config} {launch : Launch}
    (failed : ∀ call,
      host.call config launch.command launch.input launch.world.files = .ok call →
        (host.backend call launch.world.files).exit ≠ some (.status 0)) :
    ∃ status output left, launch.Fails host config status output left := by
  cases called : host.call config launch.command launch.input launch.world.files with
  | error reason => exact ⟨1, [], launch.world.files, .unstarted called⟩
  | ok call =>
      obtain ⟨status, stands⟩ := exists_standsFor (failed call called)
      exact ⟨status, _, _, .ended called stands⟩

/-- When a run of the backend fails, the program exits with the status by which the
backend named a kind of failure, and with one after any other failure, whatever messages
are put over it.  Its standard output is what the backend streamed, and it leaves no
entry that the backend has not left. -/
theorem failed_run_decides_outcome {host : Host} {words : List Bytes} {input : Bytes}
    {world : World} {invocation : Invocation} {launch : Launch} {status : Nat}
    {output : Bytes} {left : FileTree}
    (parsed : Invocation.parse host.lookup words = .ok invocation)
    (launches : invocation.request.Launches host invocation.config input world launch)
    (fails : launch.Fails host invocation.config status output left) :
    (Outcome.ofWords host words input world).status = status ∧
      0 < status ∧ status < 256 ∧
      (∃ failure,
        (invocation.request.perform host invocation.config input world).1 =
            .error failure ∧
          ∀ messages : List String, (messages.foldr Failure.context failure).status = status) ∧
      (Outcome.ofWords host words input world).output =
        (if invocation.request.isStreamed then output else []) ∧
      (Outcome.ofWords host words input world).world.files.IsPart left ∧
      (launch.before.Closed →
        (∀ call, host.call invocation.config launch.command launch.input
            launch.world.files = .ok call →
          launch.channels.Confined host.directory launch.world.files
            (host.backend call launch.world.files).files) →
        (Outcome.ofWords host words input world).world.files.SameEntries
          launch.before) := by
  obtain ⟨failure, files, calls, performed, reported, part, restored⟩ :=
    Request.perform_of_fails launches fails
  rw [Outcome.ofWords_of_parsed parsed, performed]
  have byte : failure.status < 256 := failure.kind.status_lt
  have nonzero : 0 < failure.status := Nat.pos_of_ne_zero failure.kind.status_ne_zero
  rw [reported] at byte nonzero
  refine ⟨reported, nonzero, byte, ⟨failure, rfl, fun messages => ?_⟩, rfl, part, restored⟩
  rw [failure.status_contexts, reported]

theorem unmatched_userId_decides_outcome :
    let host := { Host.bare (Environment.empty.set "CERT" (Text.encode "cert")) [] with
      backend := fun _ files => ⟨Text.encode "none", [], files, some (.status 107)⟩ }
    let words := ["--backend", "/sop", "validate-userid", "alice", "@ENV:CERT"].map Text.encode
    let world : World := ⟨⟨[([Path.ofText "sop"], .program [])]⟩, []⟩
    let config := Config.new (Path.ofText "/sop")
    let task := Task.validateUserId false none "alice" ["@ENV:CERT"]
    let command : Command := ⟨"/sop", "validate-userid", ["alice", "@ENV:CERT_0"],
      [⟨.cert, 0, Text.encode "cert"⟩]⟩
    let launch : Launch := ⟨command, some [], .new .system, world.files, world⟩
    Invocation.parse host.lookup words = .ok ⟨config, .operate task⟩ ∧
      (Request.operate task).Launches host config [] world launch ∧
      launch.Fails host config 107 (Text.encode "none") world.files ∧
      (Outcome.ofWords host words [] world).status = 107 ∧
      (Outcome.ofWords host words [] world).output = [] := by
  intro host words world config task command launch
  have parsed : Invocation.parse host.lookup words = .ok ⟨config, .operate task⟩ := by
    decide +kernel
  have prepared : task.plan.operation.prepare host config
      [.cert (Text.encode "cert"), .userId "alice"] [] world.files =
        (.ok ⟨config, command, some [], .new .system⟩, world.files) := by
    -- Without the abbreviations, both sides are closed and can be evaluated.
    dsimp only [host, world, config, task, command]
    rfl
  have launches : (Request.operate task).Launches host config [] world launch :=
    .task rfl prepared (by decide)
  have started : host.call config command (some []) world.files =
      .ok ⟨command.arguments, host.environmentFor config command, [], []⟩ := by
    decide +kernel
  have fails : launch.Fails host config 107 (Text.encode "none") world.files :=
    .ended started (.listed .certUserIdNoMatch)
  obtain ⟨status, -, -, -, output, -⟩ := failed_run_decides_outcome parsed launches fails
  exact ⟨parsed, launches, fails, status, output⟩

end Cli
end StatelessPgp
