import StatelessPgp.Command
import StatelessPgp.Config
import StatelessPgp.Files.Tree

/-!
# Backends

A backend is a program that performs the operations.  Of one run, it can see its
call and the files, and the run is described by what the backend wrote, which
files it left behind, and how it ended.
-/

namespace StatelessPgp

/-- What a program is called with. -/
structure Call where
  /-- The words after the name of the program. -/
  arguments : List String
  /-- The variables as they are handed over. -/
  environment : Environment
  /-- The standard input, to its end. -/
  input : Bytes
  directory : Location
  deriving DecidableEq, Repr

/-- How a program ends. -/
inductive Exit where
  /-- By itself, with a status. -/
  | status (code : Int)
  /-- By a signal, which may be unknown. -/
  | signal (number : Option Int)
  deriving DecidableEq, Repr

/-- What a program does when it is called. -/
structure Conduct where
  /-- What it writes to the standard output. -/
  output : Bytes
  /-- What it writes to the error output, in the pieces in which it arrives. -/
  report : List Bytes
  files : FileTree
  /-- How it ends, if it ends by itself. -/
  exit : Option Exit
  deriving DecidableEq, Repr

/-- A program as it behaves. -/
abbrev Backend := Call → FileTree → Conduct

/-- What an open descriptor refers to. -/
inductive Descriptor where
  | file (location : Location)
  | output
  | report
  deriving DecidableEq, Repr

/-- The surroundings in which operations are run. -/
structure Host where
  /-- The variables that a program gets from the running one. -/
  environment : Environment
  /-- The value that the running program finds for a variable. -/
  lookup : String → Option Bytes := environment.get?
  directory : Location
  /-- A name for a new scratch directory. -/
  scratchName : FileTree → Path → Name
  descriptors : List (Nat × Descriptor)
  /-- How the program that is found behaves. -/
  backend : Backend

/-- A host with no other programs than one that does nothing. -/
def Host.bare (environment : Environment) (directory : Location) : Host where
  environment := environment
  directory := directory
  scratchName := fun _ _ => Path.ofText "sop-scratch"
  descriptors := [(1, .output), (2, .report)]
  backend := fun _ files => ⟨[], [], files, some (.status 0)⟩

def Host.workingPath (host : Host) : Path :=
  Path.ofLocation host.directory

/-- Where the system puts temporary files: the directory named by a variable, if
there is one. -/
def Host.temporary (host : Host) : Path :=
  (host.lookup "TMPDIR").getD (Path.ofText "/tmp")

/-- What runs change. -/
structure World where
  files : FileTree
  /-- The calls that have been made, latest first. -/
  calls : List Call
  deriving DecidableEq, Repr

end StatelessPgp
