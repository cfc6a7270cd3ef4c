import StatelessPgp.Backend.Basic

/-!
# Running a backend

A run checks the secrets, finds and starts the program, moves all data, and then
looks at how the program ended.  The checks come before anything is started, and
output that was written before a failure is delivered all the same.
-/

namespace StatelessPgp

/-- How a run ended, before its exit is judged. -/
structure Completed where
  exit : Exit
  /-- The start of its error output, as text. -/
  report : String
  /-- How many bytes it wrote to the standard output. -/
  written : Nat
  deriving DecidableEq, Repr

namespace Completed

/-- Judge the exit of a program: only the status zero is success. -/
def check (completed : Completed) : Except Failure Completed :=
  match completed.exit with
  | .signal number => .error (.terminated number)
  | .status code => do
      Failure.ofStatus code completed.report
      return completed

end Completed

namespace Host

/-- The environment in which a command is run: the host's variables, over them
the configured ones, and over both the secrets. -/
def environmentFor (host : Host) (config : Config) (command : Command) :
    Environment :=
  (host.environment.setAll config.environment.entries).setAll
    (command.secrets.map fun binding => (binding.name, binding.value))

/-- The greatest size of a word or of a variable with its value, each ended by a
byte of its own. -/
def maxWordSize : Nat := 131072

/-- Whether a call holds data that the system cannot pass on. -/
def hasNul (config : Config) (command : Command) : Bool :=
  let texts := command.vector ++ config.environment.entries.map (·.1)
  texts.any (·.toList.contains '\x00') ||
    config.environment.entries.any (·.2.contains 0) ||
    command.secrets.any (!·.isPortable) ||
    (config.workingDirectory.getD []).contains 0

/-- The room that the words and the variables of a program may take together. -/
def maxTotalSize : Nat := 2097152

/-- The sizes of the words and of the variables with their values. -/
def wordSizes (environment : Environment) (command : Command) : List Nat :=
  command.vector.map String.utf8ByteSize ++
    environment.entries.map fun (name, value) => name.utf8ByteSize + 1 + value.length

/-- Whether a word, a variable or all of them together are too long for the system.
Each takes a byte for its end and eight for its address, and the path of the program
is stored once more. -/
def isTooLong (environment : Environment) (command : Command) : Bool :=
  let sizes := wordSizes environment command
  sizes.any (maxWordSize ≤ ·) ||
    maxTotalSize < sizes.foldl (fun total size => total + size + 9)
      (command.program.utf8ByteSize + 1)

/-- Check that a path leads to a program from a directory. -/
def checkProgram (files : FileTree) (directory : Location) (path : Path) :
    Except SystemError Unit :=
  match files.find directory path true with
  | .error error => .error error
  | .ok (_, .program _) => .ok ()
  | .ok _ => .error .denied

/-- What a search for a program reports after one more directory has failed: a
refusal once there has been one, and else the latest reason. -/
def keepRefusal (known error : SystemError) : SystemError :=
  if known = .denied then known else error

/-- Look for a program by name, directory after directory.  The search goes on where
the program is missing or may not be run, and ends with any other error. -/
def searchProgram (files : FileTree) (directory : Location) (name : Path)
    (known : SystemError) : List Path → Except SystemError Unit
  | [] => .error known
  | candidate :: rest =>
      match checkProgram files directory (candidate.join name) with
      | .ok () => .ok ()
      | .error error =>
          if error = .noEntry ∨ error = .notDirectory ∨ error = .denied then
            searchProgram files directory name (keepRefusal known error) rest
          else .error error

/-- The directories in which programs are looked for: the variable `PATH`, cut at
colons.  What is too long for any path is passed over. -/
def searchPath (environment : Environment) : List Path :=
  (Path.cutAt 58 ((environment.get? "PATH").getD (Path.ofText "/bin:/usr/bin"))).filter
    fun candidate => decide (candidate.length ≤ FileTree.maxPathLength)

def findProgram (files : FileTree) (directory : Location)
    (environment : Environment) (program : Path) : Except SystemError Unit :=
  if program.contains Path.slash then checkProgram files directory program
  else if program.isEmpty then .error .noEntry
  else searchProgram files directory program .noEntry (searchPath environment)

def startDirectory (host : Host) (config : Config) (files : FileTree) :
    Except SystemError Location :=
  match config.workingDirectory with
  | none => .ok host.directory
  | some path =>
      match files.find host.directory path true with
      | .error error => .error error
      | .ok (location, .directory) | .ok (location, .systemDirectory) => .ok location
      | .ok _ => .error .notDirectory

/-- The call that starts a command, or why it cannot be started. -/
def call (host : Host) (config : Config) (command : Command)
    (input : Option Bytes) (files : FileTree) : Except SystemError Call :=
  if hasNul config command then
    .error (.said "nul byte found in provided data")
  else do
    let environment := host.environmentFor config command
    let directory ← host.startDirectory config files
    findProgram files directory environment (Path.ofText command.program)
    if isTooLong environment command then .error .argumentsTooLong
    else .ok ⟨command.arguments, environment, input.getD [], directory⟩

end Host

/-- What a run leaves behind. -/
structure Run (α : Type) where
  /-- What was written to the standard output, also before a failure. -/
  output : Bytes
  result : Except Failure α
  world : World

/-- What is kept of an error output once another piece of it has arrived: nothing
beyond the limit. -/
def keepPiece (limit : Nat) (kept piece : Bytes) : Bytes :=
  kept ++ piece.take (limit - kept.length)

/-- The start of an error output as text.  All pieces are taken, also those of
which nothing is kept. -/
def keptReport (limit : Nat) (pieces : List Bytes) : String :=
  Text.decodeLossy (pieces.foldl (keepPiece limit) [])

namespace Conduct

/-- What a run of this conduct amounts to.  One that does not end by itself is
stopped at the deadline; without a deadline, only a signal from elsewhere can end
it. -/
def outcome (config : Config) (conduct : Conduct) : Except Failure Completed :=
  match conduct.exit, config.timeout with
  | none, some limit => .error (.timeout limit)
  | none, none =>
      .ok ⟨.signal none, keptReport config.reportLimit conduct.report,
        conduct.output.length⟩
  | some exit, _ =>
      .ok ⟨exit, keptReport config.reportLimit conduct.report,
        conduct.output.length⟩

end Conduct

namespace Command

/-- Run a command.  The exit is not judged. -/
def run (host : Host) (config : Config) (command : Command)
    (input : Option Bytes) (world : World) : Run Completed :=
  match command.validate with
  | .error failure => ⟨[], .error failure, world⟩
  | .ok () =>
      match host.call config command input world.files with
      | .error reason => ⟨[], .error (.spawn command.program reason), world⟩
      | .ok call =>
          let conduct := host.backend call world.files
          ⟨conduct.output, conduct.outcome config,
            ⟨conduct.files, call :: world.calls⟩⟩

def execute (host : Host) (config : Config) (command : Command)
    (input : Option Bytes) (world : World) : Run Completed :=
  let run := command.run host config input world
  { run with result := run.result.bind Completed.check }

end Command
end StatelessPgp
