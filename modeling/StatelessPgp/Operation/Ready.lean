import StatelessPgp.Backend.Run
import StatelessPgp.Operation.Basic

/-!
# Invocations

An operation is made ready by freezing its command line and reserving its side
channels; then it is either run or dropped.  Whatever happens, its side channels
are released at the end.
-/

namespace StatelessPgp

/-- An operation that is ready to run. -/
structure Ready (operation : Operation) where
  config : Config
  command : Command
  /-- The standard input, if the operation reads any. -/
  input : Option Bytes
  channels : Channels
  deriving Repr

namespace Ready

/-- A description up to the side channels that does not show secrets. -/
def redacted {operation : Operation} (ready : Ready operation) : String :=
  "Ready \x7b descriptor: " ++ ready.command.redacted ++ ", has_input: " ++
    (if ready.input.isSome then "true" else "false")

def description {operation : Operation} (showDirectory : Path → String)
    (ready : Ready operation) : String :=
  ready.redacted ++ ", side_channels: " ++ ready.channels.description showDirectory ++
    " \x7d"

/-- The files after an operation has been dropped without running. -/
def drop {operation : Operation} (ready : Ready operation) (host : Host)
    (files : FileTree) : FileTree :=
  ready.channels.release host.directory files

/-- Run an operation.  Its result is read from the side channels only if the
backend succeeded. -/
def run {operation : Operation} (ready : Ready operation) (host : Host)
    (world : World) : Run operation.Result :=
  let run := ready.command.execute host ready.config ready.input world
  let output := if operation.isStreamed then run.output else []
  let (result, channels, files) := match run.result with
    | .error failure => (operation.recover failure, ready.channels, run.world.files)
    | .ok _ =>
        (operation.finish run.output host.directory).run
          (ready.channels, run.world.files)
  ⟨output, result,
    { run.world with files := channels.release host.directory files }⟩

end Ready

namespace Operation

/-- Reserve channels in order and append an option for each. -/
def reserveAll (host : Host) (draft : Draft) (channels : Channels)
    (files : FileTree) :
    List (String × Channel) → Except SystemError Draft × Channels × FileTree
  | [] => (.ok draft, channels, files)
  | (option, channel) :: rest =>
      match channels.reserve host channel files with
      | (.error error, channels, files) => (.error error, channels, files)
      | (.ok path, channels, files) =>
          reserveAll host (draft.option option path.display) channels files rest

/-- Make an operation ready.  If that fails, nothing is left behind. -/
def prepare (operation : Operation) (host : Host) (config : Config)
    (settings : List Setting) (input : Bytes) (files : FileTree) :
    Except Failure (Ready operation) × FileTree :=
  match operation.complete (operation.draft config.program settings) with
  | .error failure => (.error failure, files)
  | .ok draft =>
      match reserveAll host draft (Channels.new config.scratchParent) files
          (operation.channelOptions settings) with
      | (.error error, channels, files) =>
          (.error (.transfer error), channels.release host.directory files)
      | (.ok draft, channels, files) =>
          (.ok ⟨config, draft.freeze,
            if operation.hasInput then some input else none, channels⟩, files)

/-- Make an operation ready and run it. -/
def invoke (operation : Operation) (host : Host) (config : Config)
    (settings : List Setting) (input : Bytes) (world : World) :
    Run operation.Result :=
  match operation.prepare host config settings input world.files with
  | (.error failure, files) => ⟨[], .error failure, { world with files }⟩
  | (.ok ready, files) => ready.run host { world with files }

end Operation
end StatelessPgp
