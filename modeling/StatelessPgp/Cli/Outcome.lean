import StatelessPgp.Cli.Invocation
import StatelessPgp.Cli.Plan
import StatelessPgp.Designator
import StatelessPgp.Operation.Ready

/-!
# Outcomes

Carrying out an invocation yields what is written to the two standard outputs, an
exit status, and the world it leaves behind.  All data is read and all outputs are
checked before the backend is run, and outputs are written after it has succeeded.
-/

namespace StatelessPgp
namespace Cli

/-- What has been written so far, and the world. -/
structure Console where
  /-- What was written to the standard output. -/
  output : Bytes
  /-- What was written to the error output. -/
  report : Bytes
  world : World
  deriving DecidableEq, Repr

namespace Console

def start (world : World) : Console := ⟨[], [], world⟩

def print (console : Console) (data : Bytes) : Console :=
  { console with output := console.output ++ data }

/-- Write to what is open. -/
def write (console : Console) (data : Bytes) : Descriptor → Console
  | .output => console.print data
  | .report => { console with report := console.report ++ data }
  | .file location =>
      { console with
        world :=
          { console.world with
            files := console.world.files.writeTo data (.file location) } }

/-- Open an output and write to it. -/
def deliver (host : Host) (console : Console) (token : String) (data : Bytes) :
    Except Failure Unit × Console :=
  match host.openOutput console.world.files token with
  | .error failure => (.error failure, console)
  | .ok (descriptor, files) =>
      let opened := { console with world := { console.world with files } }
      (.ok (), opened.write data descriptor)

/-- Write all outputs in order, up to the first that fails. -/
def deliverAll (host : Host) (console : Console) :
    List (String × Bytes) → Except Failure Unit × Console
  | [] => (.ok (), console)
  | (token, data) :: rest =>
      match console.deliver host token data with
      | (.error failure, console) => (.error failure, console)
      | (.ok (), console) => deliverAll host console rest

end Console

namespace Source

/-- Read what a token names, and say what for if that fails. -/
def fetch (host : Host) (files : FileTree) (purpose token : String) :
    Except Failure Bytes :=
  (host.readInput files token).mapError
    (Failure.context ("Cannot read " ++ purpose ++ " '" ++ Text.strip token ++ "'"))

def readSessionKey (data : Bytes) : Except Failure SessionKey :=
  match Text.decode data with
  | .error error =>
      .error (.because .badData "Session key is not valid UTF-8." error.message)
  | .ok text => SessionKey.parse text

/-- The setting that comes from a source. -/
def resolve (host : Host) (files : FileTree) : Source → Except Failure Setting
  | .given setting => .ok setting
  | .secret purpose make token => (fetch host files purpose token).map make
  | .sessionKey token => do
      let data ← fetch host files "session key" token
      return .sessionKey (← readSessionKey data)

end Source

namespace Plan

/-- Everything that is checked and read before the backend is run, in order. -/
def settings (plan : Plan) (host : Host) (files : FileTree) :
    Except Failure (List Setting) := do
  match plan.objection with
  | some failure => throw failure
  | none => pure ()
  plan.outputs.forM (host.checkOutput files)
  plan.sources.mapM (Source.resolve host files)

def perform (plan : Plan) (host : Host) (config : Config) (input : Bytes)
    (world : World) : Except Failure Unit × Console :=
  match plan.settings host world.files with
  | .error failure => (.error failure, .start world)
  | .ok settings =>
      let run := plan.operation.invoke host config settings input world
      let console := (Console.start run.world).print run.output
      match run.result.bind plan.deliver with
      | .error failure => (.error failure, console)
      | .ok delivery =>
          (console.print (Text.encode delivery.printed)).deliverAll host
            delivery.outputs

end Plan

def answer (run : Run String) : Except Failure Unit × Console :=
  match run.result with
  | .error failure => (.error failure, .start run.world)
  | .ok text => (.ok (), (Console.start run.world).print (Text.encode text))

/-- Put a text in lines of its own. -/
def inLines (texts : List String) : String :=
  String.join (texts.map (· ++ "\n"))

namespace Question

def ask (question : Question) (host : Host) (config : Config) (world : World) :
    Run String :=
  match question with
  | .version none =>
      (VersionQuery.askBanner host config world).andThen fun text =>
        .ok (inLines [text])
  | .version (some query) =>
      (query.ask host config world).andThen fun text => .ok (inLines [text])
  | .profiles subcommand =>
      (Profile.list subcommand host config world).andThen fun profiles =>
        .ok (inLines (profiles.map Profile.render))

end Question

def Request.perform (request : Request) (host : Host) (config : Config)
    (input : Bytes) (world : World) : Except Failure Unit × Console :=
  match request with
  | .inquire question => answer (question.ask host config world)
  | .operate task => task.plan.perform host config input world

/-- What an invocation amounts to. -/
structure Outcome where
  status : Nat
  /-- What was written to the standard output. -/
  output : Bytes
  /-- What was written to the error output. -/
  report : Bytes
  world : World
  deriving DecidableEq, Repr

/-- A failure with its causes, as it is reported. -/
def diagnostics (failure : Failure) : String :=
  inLines
    (("Error: " ++ failure.message) ::
      failure.causes.map fun cause => "  caused by: " ++ cause)

namespace Refusal

/-- What is printed on the standard output instead. -/
def output : Refusal → String
  | .help =>
      inLines ("Usage: sop [OPTIONS] <COMMAND>" :: "" :: "Commands:" ::
        Subcommand.all.map fun subcommand => "  " ++ subcommand.name)
  | .version => "sop 0.1.0\n"
  | _ => ""

/-- What is printed on the error output.  The words are no more than a hint: a refusal is told by
its status. -/
def report : Refusal → String
  | .help | .version => ""
  | .unknownSubcommand => "error: unrecognized subcommand\n"
  | .missing => "error: a required argument is missing\n"
  | .conflict => "error: arguments cannot be used together\n"
  | .unsupported => "error: unexpected argument or invalid value\n"

end Refusal

namespace Outcome

def refused (refusal : Refusal) (world : World) : Outcome :=
  ⟨refusal.status, Text.encode refusal.output, Text.encode refusal.report, world⟩

/-- The outcome of a request that has been carried out. -/
def ofResult : Except Failure Unit × Console → Outcome
  | (.ok (), console) => ⟨0, console.output, console.report, console.world⟩
  | (.error failure, console) =>
      ⟨failure.status, console.output,
        console.report ++ Text.encode (diagnostics failure), console.world⟩

/-- The outcome of a command line without the name of the program. -/
def ofWords (host : Host) (words : List Bytes) (input : Bytes) (world : World) :
    Outcome :=
  match Invocation.parse host.lookup words with
  | .error refusal => refused refusal world
  | .ok invocation =>
      ofResult (invocation.request.perform host invocation.config input world)

end Outcome
end Cli
end StatelessPgp
