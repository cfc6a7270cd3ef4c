import Mathlib.Data.List.Basic
import StatelessPgp.Concurrent.Retrieval
import StatelessPgp.Operation.Ready

/-!
# Invocations step by step

An invocation takes its steps one at a time, and others can take theirs in between.  It
reserves its channels; the backend is started, writes to the channels and ends; what it
wrote is read channel by channel; and at last, or at any time before, the channels are
released.  What the system and the backend do comes from outside, and so does the name
that is drawn for the private directory.
-/

namespace StatelessPgp

def isAlphanumeric (byte : UInt8) : Bool :=
  (48 ≤ byte && byte ≤ 57) || (65 ≤ byte && byte ≤ 90) || (97 ≤ byte && byte ≤ 122)

/-- A name that a scratch directory may get: `sop-` with six letters or digits. -/
def isScratchName (name : Name) : Bool :=
  (Path.ofText "sop-").isPrefixOf name && name.length == 10 &&
    (name.drop 4).all isAlphanumeric

namespace Host

def scratch (host : Host) (config : Config) (name : Name) : Path :=
  (host.scratchParent config.scratchParent).join name

/-- A host that draws a given name for its next scratch directory. -/
def drawing (host : Host) (name : Name) : Host :=
  { host with scratchName := fun _ _ => name }

/-- Whether a name may be drawn: it has the form of such names and is not in use. -/
def offers (host : Host) (config : Config) (files : FileTree) (name : Name) : Bool :=
  isScratchName name &&
    match files.resolveName host.directory (host.scratch config name) with
    | .ok location => (files.get? location).isNone
    | .error _ => true

end Host

/-- An invocation that is to be made. -/
structure Job where
  operation : Operation
  settings : List Setting
  input : Bytes
  /-- The name that it draws for its private directory.  It makes one at most. -/
  name : Name

abbrev Job.renamed (job : Job) (name : Name) : Job :=
  { job with name }

/-- A step of an invocation. -/
inductive Turn where
  | reserve
  /-- The backend is started in a directory, or the system refuses to start it. -/
  | start (place : Except SystemError Location)
  | write (channel : Channel) (bytes : Bytes)
  | makeDirectory (channel : Channel)
  /-- The backend ends after it has written its outputs. -/
  | exit (output : Bytes) (report : List Bytes) (exit : Option Exit)
  | consume
  /-- The channels are released. -/
  | drop
  deriving DecidableEq

inductive Stage (operation : Operation) where
  /-- A channel is to be reserved, and then others. -/
  | drafting (draft : Draft) (option : String × Channel) (rest : List (String × Channel))
  | ready
  | running
  /-- The backend has ended, or an earlier step has failed. -/
  | reading (retrieval : Retrieval operation.Result)
  /-- The channels have been released. -/
  | released (result : Option (Except Failure operation.Result))

def Stage.result? {operation : Operation} :
    Stage operation → Option (Except Failure operation.Result)
  | .reading (.done result) => some result
  | .released result => result
  | _ => none

/-- An invocation that is being made. -/
structure Progress (operation : Operation) where
  stage : Stage operation
  channels : Channels
  /-- The command line, once it is frozen. -/
  command : Option Command
  /-- What the backend has been called with. -/
  call : Option Call

namespace Progress

variable {operation : Operation}

/-- A draft is frozen when no channel is left to be reserved. -/
def drafted (channels : Channels) (draft : Draft) :
    List (String × Channel) → Progress operation
  | [] => ⟨.ready, channels, some draft.freeze, none⟩
  | option :: rest => ⟨.drafting draft option rest, channels, none, none⟩

def start (config : Config) (job : Job) : Progress job.operation :=
  let channels := Channels.new config.scratchParent
  match job.operation.complete (job.operation.draft config.program job.settings) with
  | .error failure => ⟨.reading (.done (.error failure)), channels, none, none⟩
  | .ok draft => drafted channels draft (job.operation.channelOptions job.settings)

def settle (progress : Progress operation) (result : Except Failure operation.Result) :
    Progress operation :=
  { progress with stage := .reading (.done result) }

/-- Reserve the next channel.  The private directory is made with a name that may be
drawn. -/
def reserve (host : Host) (config : Config) (name : Name) (progress : Progress operation)
    (files : FileTree) : Option (Progress operation × FileTree) :=
  match progress.stage with
  | .drafting draft option rest =>
      if progress.channels.directory = none ∧ host.offers config files name = false then none
      else
        some (match progress.channels.reserve (host.drawing name) option.2 files with
          | (.error error, channels, files) =>
              ({ progress with channels }.settle (.error (.transfer error)), files)
          | (.ok path, channels, files) =>
              (drafted channels (draft.option option.1 path.display) rest, files))
  | _ => none

/-- Start the backend, if the secrets can be passed on. -/
def launch (host : Host) (config : Config) (input : Bytes)
    (place : Except SystemError Location) (progress : Progress operation) :
    Option (Progress operation) :=
  match progress.stage, progress.command with
  | .ready, some command =>
      some (match command.validate, place with
        | .error failure, _ => progress.settle (operation.recover failure)
        | .ok (), .error reason =>
            progress.settle (operation.recover (.spawn command.program reason))
        | .ok (), .ok directory =>
            { progress with
              stage := .running
              call := some ⟨command.arguments, host.environmentFor config command,
                if operation.hasInput then input else [], directory⟩ })
  | _, _ => none

/-- What the backend attempts at the path of a channel. -/
def attempt (channel : Channel) (change : Path → Except SystemError FileTree)
    (progress : Progress operation) (files : FileTree) :
    Option (Progress operation × FileTree) :=
  match progress.stage, progress.channels.path? channel with
  | .running, some path => some (progress, (change path).toOption.getD files)
  | _, _ => none

/-- Judge how the backend ended. -/
def finish (config : Config) (output : Bytes) (report : List Bytes) (exit : Option Exit)
    (progress : Progress operation) : Option (Progress operation) :=
  match progress.stage with
  | .running =>
      let outcome := Conduct.outcome config ⟨output, report, .empty, exit⟩
      some (match outcome.bind Completed.check with
        | .error failure => progress.settle (operation.recover failure)
        | .ok _ => { progress with stage := .reading (operation.retrieval output) })
  | _ => none

def consume (directory : Location) (progress : Progress operation) (files : FileTree) :
    Option (Progress operation × FileTree) :=
  match progress.stage with
  | .reading (.consume channel next) =>
      some (match progress.channels.consume directory channel files with
        | (.error error, channels, files) =>
            ({ progress with channels }.settle (.error (.transfer error)), files)
        | (.ok data, channels, files) =>
            ({ progress with stage := .reading (next data), channels }, files))
  | _ => none

def drop (directory : Location) (parent : ScratchParent) (progress : Progress operation)
    (files : FileTree) : Option (Progress operation × FileTree) :=
  match progress.stage with
  | .released _ => none
  | stage =>
      some ({ progress with stage := .released stage.result?, channels := .new parent },
        progress.channels.release directory files)

/-- A step of an invocation, if it is one that can be taken. -/
def step (host : Host) (config : Config) (job : Job) (progress : Progress job.operation)
    (files : FileTree) : Turn → Option (Progress job.operation × FileTree)
  | .reserve => progress.reserve host config job.name files
  | .start place => (progress.launch host config job.input place).map (·, files)
  | .write channel bytes =>
      progress.attempt channel (files.write host.directory · bytes) files
  | .makeDirectory channel =>
      progress.attempt channel
        (fun path => (files.createDirectory host.directory path).map Prod.snd) files
  | .exit output report exit => (progress.finish config output report exit).map (·, files)
  | .consume => progress.consume host.directory files
  | .drop => progress.drop host.directory config.scratchParent files

/-- The steps of an invocation, with no others in between. -/
def run (host : Host) (config : Config) (job : Job) (trace : List Turn)
    (state : Progress job.operation × FileTree) :
    Option (Progress job.operation × FileTree) :=
  trace.foldlM (fun state turn => state.1.step host config job state.2 turn) state

end Progress

/-- Several invocations on the same files. -/
structure System {ι : Type} (jobs : ι → Job) where
  progress : ∀ i, Progress (jobs i).operation
  files : FileTree

namespace System

variable {ι : Type} [DecidableEq ι] {jobs : ι → Job}

def start (config : Config) (jobs : ι → Job) (files : FileTree) : System jobs :=
  ⟨fun i => Progress.start config (jobs i), files⟩

def step (host : Host) (config : Config) (system : System jobs) (event : ι × Turn) :
    Option (System jobs) :=
  ((system.progress event.1).step host config (jobs event.1) system.files event.2).map
    fun taken => ⟨Function.update system.progress event.1 taken.1, taken.2⟩

/-- Steps of the invocations in any order. -/
def run (host : Host) (config : Config) (trace : List (ι × Turn)) (system : System jobs) :
    Option (System jobs) :=
  trace.foldlM (step host config) system

/-- The steps that one of the invocations has taken. -/
def own (i : ι) (trace : List (ι × Turn)) : List Turn :=
  trace.filterMap fun event => if event.1 = i then some event.2 else none

end System

end StatelessPgp
