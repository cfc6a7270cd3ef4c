import StatelessPgp.Proofs.Channels.Refinement
import StatelessPgp.Proofs.Concurrent.Progress
import StatelessPgp.Proofs.Concurrent.Retrieval
import StatelessPgp.Proofs.Operation.Ending

/-!
# Invocations at once

An invocation that is made at once comes to the state in which its steps, one after the
other, leave it.
-/

namespace StatelessPgp

open FileTree

/-- Only channels without a reservation lack a private directory after one. -/
theorem Channels.directory_of_reserve {host : Host} {channels later : Channels}
    {channel : Channel} {files left : FileTree} {path : Path}
    (empty : channels.directory = none → channels.reserved = [])
    (reserves : channels.reserve host channel files = (.ok path, later, left)) :
    later.directory ≠ none := by
  cases opened : channels.directory with
  | some directory => simp [directory_reserve opened reserves]
  | none =>
      rw [reserve_of_unopened opened (empty opened)] at reserves
      split at reserves
      · cases reserves
      · next directory made _ =>
          have kept : later.directory = some directory := directory_reserve rfl reserves
          simp [kept]

/-- What a backend is called with, wherever it is started. -/
theorem Host.call_eq {host : Host} {config : Config} {command : Command}
    {input : Option Bytes} {files : FileTree} {call : Call}
    (called : host.call config command input files = .ok call) :
    call = ⟨command.arguments, host.environmentFor config command, input.getD [],
      call.directory⟩ := by
  rw [Host.call] at called
  split at called
  · cases called
  · simp only [bind, Except.bind] at called
    split at called
    · cases called
    · split at called
      · cases called
      · split at called
        · cases called
        · cases called
          rfl

theorem Ready.run_drawing {operation : Operation} {ready : Ready operation} {host : Host}
    {world : World} (name : Name) :
    ready.run (host.drawing name) world = ready.run host world :=
  rfl

namespace Progress

variable {host : Host} {config : Config} {job : Job}

def Leads (host : Host) (config : Config) (job : Job)
    (before after : Progress job.operation × FileTree) : Prop :=
  ∃ trace, run host config job trace before = some after

namespace Leads

variable {first second third : Progress job.operation × FileTree}

theorem refl (state : Progress job.operation × FileTree) : Leads host config job state state :=
  ⟨[], rfl⟩

theorem trans (left : Leads host config job first second)
    (right : Leads host config job second third) : Leads host config job first third := by
  obtain ⟨earlier, reached⟩ := left
  obtain ⟨later, arrived⟩ := right
  refine ⟨earlier ++ later, ?_⟩
  rw [run, List.foldlM_append]
  exact Option.bind_eq_some_iff.2 ⟨second, reached, arrived⟩

theorem head {turn : Turn}
    (steps : first.1.step host config job first.2 turn = some second)
    (rest : Leads host config job second third) : Leads host config job first third := by
  obtain ⟨trace, arrived⟩ := rest
  refine ⟨turn :: trace, ?_⟩
  rw [run, List.foldlM_cons]
  exact Option.bind_eq_some_iff.2 ⟨second, steps, arrived⟩

end Leads

/-- All channels have been reserved, or one could not be. -/
def prepared {operation : Operation} (channels : Channels) :
    Except SystemError Draft → Progress operation
  | .ok draft => drafted channels draft []
  | .error error => ⟨.reading (.done (.error (.transfer error))), channels, none, none⟩

/-- The channels are reserved one by one, until all are reserved or one cannot be. -/
theorem leads_reserveAll {options : List (String × Channel)} {draft : Draft}
    {channels later : Channels} {files left : FileTree} {outcome : Except SystemError Draft}
    (fresh : channels.directory = none →
      channels.reserved = [] ∧ host.offers config files job.name = true)
    (reserve : Operation.reserveAll (host.drawing job.name) draft channels files options =
      (outcome, later, left)) :
    Leads host config job (drafted channels draft options, files)
      (prepared later outcome, left) := by
  induction options generalizing draft channels files with
  | nil =>
      cases reserve
      exact .refl _
  | cons option rest hypothesis =>
      have allowed : ¬ (channels.directory = none ∧
          host.offers config files job.name = false) := by
        rintro ⟨unopened, refused⟩
        cases (fresh unopened).2.symm.trans refused
      rw [Operation.reserveAll] at reserve
      split at reserve
      · next error after made reserves =>
          cases reserve
          have steps : Progress.step host config job
              (drafted channels draft (option :: rest)) files .reserve =
                some (⟨.reading (.done (.error (.transfer error))), later, none, none⟩, left) := by
            simp [step, Progress.reserve, drafted, allowed, reserves, settle]
          exact .head steps (.refl _)
      · next path after made reserves =>
          have steps : Progress.step host config job
              (drafted channels draft (option :: rest)) files .reserve =
                some (drafted after (draft.option option.1 path.display) rest, made) := by
            rw [step, Progress.reserve, drafted]
            dsimp only
            rw [if_neg allowed, reserves]
          have opened := Channels.directory_of_reserve (fun unopened => (fresh unopened).1)
            reserves
          exact .head steps (hypothesis (fun unopened => absurd unopened opened) reserve)

theorem leads_reading (host : Host) (config : Config)
    (retrieval : Retrieval job.operation.Result) (channels : Channels) (files : FileTree)
    (command : Option Command) (call : Option Call) :
    let outcome : _ × _ := (retrieval.toReader host.directory).run (channels, files)
    Leads host config job (⟨.reading retrieval, channels, command, call⟩, files)
      (⟨.reading (.done outcome.1), outcome.2.1, command, call⟩, outcome.2.2) := by
  induction retrieval generalizing channels files with
  | done result =>
      rw [Retrieval.toReader, ChannelReader.run_liftExcept]
      exact .refl _
  | consume channel next hypothesis =>
      rw [Retrieval.toReader, ChannelReader.run_bind, ChannelReader.run_consume]
      rcases consumes : channels.consume host.directory channel files with
        ⟨error | data, later, left⟩
      · have steps : Progress.step host config job
            ⟨.reading (.consume channel next), channels, command, call⟩ files .consume =
              some (⟨.reading (.done (.error (.transfer error))), later, command, call⟩,
                left) := by
          simp [step, Progress.consume, consumes, settle]
        exact .head steps (.refl _)
      · have steps : Progress.step host config job
            ⟨.reading (.consume channel next), channels, command, call⟩ files .consume =
              some (⟨.reading (next data), later, command, call⟩, left) := by
          simp [step, Progress.consume, consumes]
        exact .head steps (hypothesis data later left)

/-- When there is a result, only the release of the channels is left. -/
theorem leads_release (result : Except Failure job.operation.Result) (channels : Channels)
    (files : FileTree) (command : Option Command) (call : Option Call) :
    Leads host config job (⟨.reading (.done result), channels, command, call⟩, files)
      (⟨.released (some result), .new config.scratchParent, command, call⟩,
        channels.release host.directory files) := by
  have drops : Progress.step host config job
      ⟨.reading (.done result), channels, command, call⟩ files .drop =
    some (⟨.released (some result), .new config.scratchParent, command, call⟩,
      channels.release host.directory files) := rfl
  exact .head drops (.refl _)

/-- After the backend has ended, its exit is judged and the channels are read. -/
theorem leads_finish (host : Host) (config : Config) (job : Job) (conduct : Conduct)
    (channels : Channels) (command : Option Command) (call : Option Call) :
    let outcome : Except Failure job.operation.Result × Channels × FileTree :=
      match (conduct.outcome config).bind Completed.check with
      | .error failure => (job.operation.recover failure, channels, conduct.files)
      | .ok _ =>
          (job.operation.finish conduct.output host.directory).run (channels, conduct.files)
    Leads host config job (⟨.running, channels, command, call⟩, conduct.files)
      (⟨.released (some outcome.1), .new config.scratchParent, command, call⟩,
        outcome.2.1.release host.directory outcome.2.2) := by
  have ends : Progress.step host config job ⟨.running, channels, command, call⟩ conduct.files
      (.exit conduct.output conduct.report conduct.exit) = some
        ((match (conduct.outcome config).bind Completed.check with
          | .error failure =>
              ⟨.reading (.done (job.operation.recover failure)), channels, command, call⟩
          | .ok _ =>
              ⟨.reading (job.operation.retrieval conduct.output), channels, command, call⟩),
          conduct.files) := rfl
  cases judged : (conduct.outcome config).bind Completed.check with
  | error failure =>
      rw [judged] at ends
      exact .head ends (leads_release _ _ _ _ _)
  | ok completed =>
      rw [judged] at ends
      have reads := leads_reading host config (job.operation.retrieval conduct.output) channels
        conduct.files command call
      rw [Retrieval.toReader_retrieval] at reads
      exact .head ends (Leads.trans reads (leads_release _ _ _ _ _))

/-- The backend is started and, if it is, leaves its files and ends; then the channels are
read. -/
theorem leads_run (ready : Ready job.operation) (world : World)
    (same : ready.config = config)
    (given : ready.input = if job.operation.hasInput then some job.input else none)
    (confined : ∀ call, host.call config ready.command ready.input world.files = .ok call →
      Leads host config job
        (⟨.running, ready.channels, some ready.command, some call⟩, world.files)
        (⟨.running, ready.channels, some ready.command, some call⟩,
          (host.backend call world.files).files)) :
    ∃ progress, progress.stage = .released (some (ready.run host world).result) ∧
      Leads host config job (⟨.ready, ready.channels, some ready.command, none⟩, world.files)
        (progress, (ready.run host world).world.files) := by
  subst same
  rw [Ready.run]
  cases valid : ready.command.validate with
  | error failure =>
      rw [Command.execute_of_invalid valid]
      have starts : Progress.step host ready.config job
          ⟨.ready, ready.channels, some ready.command, none⟩ world.files
          (.start (.ok host.directory)) = some
            (⟨.reading (.done (job.operation.recover failure)), ready.channels,
              some ready.command, none⟩, world.files) := by
        simp [step, launch, valid, settle]
      exact ⟨_, rfl, .head starts (leads_release _ _ _ _ _)⟩
  | ok =>
      cases called : host.call ready.config ready.command ready.input world.files with
      | error reason =>
          rw [Command.execute_of_unstarted valid called]
          have starts : Progress.step host ready.config job
              ⟨.ready, ready.channels, some ready.command, none⟩ world.files
              (.start (.error reason)) = some
                (⟨.reading (.done
                    (job.operation.recover (.spawn ready.command.program reason))),
                  ready.channels, some ready.command, none⟩, world.files) := by
            simp [step, launch, valid, settle]
          exact ⟨_, rfl, .head starts (leads_release _ _ _ _ _)⟩
      | ok call =>
          rw [Command.execute_of_started valid called]
          have starts : Progress.step host ready.config job
              ⟨.ready, ready.channels, some ready.command, none⟩ world.files
              (.start (.ok call.directory)) = some
                (⟨.running, ready.channels, some ready.command, some call⟩, world.files) := by
            have same := Host.call_eq called
            rw [given] at same
            rw [same]
            cases input : job.operation.hasInput <;> simp [step, launch, valid, input]
          have finishes := leads_finish host ready.config job (host.backend call world.files)
            ready.channels (some ready.command) (some call)
          exact ⟨_, rfl, .head starts ((confined call called).trans finishes)⟩

end Progress

/-- Making an invocation at once amounts to some of its steps, if the name of its private
directory may be drawn and all that the backend does to files is to write to reserved
channels. -/
theorem Operation.leads_invoke {host : Host} {config : Config} {job : Job} {world : World}
    (offered : host.offers config world.files job.name = true)
    (confined : ∀ ready made call,
      job.operation.prepare (host.drawing job.name) config job.settings job.input
          world.files = (.ok ready, made) →
        host.call config ready.command ready.input made = .ok call →
          Progress.Leads host config job
            (⟨.running, ready.channels, some ready.command, some call⟩, made)
            (⟨.running, ready.channels, some ready.command, some call⟩,
              (host.backend call made).files)) :
    let invoked := job.operation.invoke (host.drawing job.name) config job.settings job.input
      world
    ∃ progress, progress.stage = .released (some invoked.result) ∧
      Progress.Leads host config job (Progress.start config job, world.files)
        (progress, invoked.world.files) := by
  cases complete : job.operation.complete
      (job.operation.draft config.program job.settings) with
  | error failure =>
      rw [Operation.invoke, Operation.prepare, complete, Progress.start, complete]
      exact ⟨_, rfl, Progress.leads_release _ _ _ _ _⟩
  | ok draft =>
      have reserves {outcome : Except SystemError Draft} {channels : Channels}
          {made : FileTree} (reserve : reserveAll (host.drawing job.name) draft
            (.new config.scratchParent) world.files
            (job.operation.channelOptions job.settings) = (outcome, channels, made)) :
          Progress.Leads host config job (Progress.start config job, world.files)
            (Progress.prepared channels outcome, made) := by
        rw [Progress.start, complete]
        exact Progress.leads_reserveAll (fun _ => ⟨rfl, offered⟩) reserve
      rw [Operation.invoke]
      rw [Operation.prepare, complete] at confined ⊢
      dsimp only at confined ⊢
      rcases reserve : reserveAll (host.drawing job.name) draft (.new config.scratchParent)
          world.files (job.operation.channelOptions job.settings) with
        ⟨error | reserved, channels, made⟩
      · exact ⟨_, rfl, (reserves reserve).trans (Progress.leads_release _ _ _ _ _)⟩
      · rw [reserve] at confined
        have written := fun call => confined _ made call rfl
        obtain ⟨progress, ends, arrives⟩ := Progress.leads_run
          ⟨config, reserved.freeze, if job.operation.hasInput then some job.input else none,
            channels⟩ { world with files := made } rfl rfl written
        rw [← Ready.run_drawing job.name] at ends arrives
        exact ⟨progress, ends, (reserves reserve).trans arrives⟩

end StatelessPgp
