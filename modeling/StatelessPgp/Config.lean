import StatelessPgp.Environment
import StatelessPgp.Failure.Duration
import StatelessPgp.Files.Path

/-!
# Configuration

How a backend is run: which program, with which additions to the environment,
where its scratch files go, and how long and how much it may talk.
-/

namespace StatelessPgp

/-- Where scratch directories are made. -/
inductive ScratchParent where
  /-- In the system's directory for temporary files. -/
  | system
  | within (directory : Path)
  deriving DecidableEq, Repr

/-- How a backend is run. -/
structure Config where
  /-- The path of the program, or its name if it is to be searched for. -/
  binary : Path
  environment : Environment
  scratchParent : ScratchParent
  /-- The directory in which the backend runs, if not the current one. -/
  workingDirectory : Option Path
  /-- How long a run may take. -/
  timeout : Option Duration
  /-- How many bytes of the backend's error output are kept. -/
  reportLimit : Nat
  deriving DecidableEq, Repr

namespace Config

/-- The default configuration for a program. -/
def new (binary : Path) : Config :=
  ⟨binary, .empty, .system, none, none, 65536⟩

/-- Add a variable to the environment, in place of one with the same name. -/
def withVariable (name value : String) (config : Config) : Config :=
  { config with environment := config.environment.set name (Text.encode value) }

/-- The text by which messages call the program. -/
def program (config : Config) : String :=
  config.binary.display

end Config
end StatelessPgp
