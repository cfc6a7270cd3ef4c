import StatelessPgp.Cli.Outcome
import StatelessPgp.Files.Standard

/-!
# The program

The program reads its command line, the variables and files that the words name,
and its standard input, and writes the outcome.  It has no backend at hand: every
name of a program is one that is not found.
-/

namespace StatelessPgp
namespace Cli

/-- The tokens that a word may hold: the word, and what follows an equals sign. -/
def tokensOf (word : String) : List String :=
  match Text.cutFirst ['='] word.toList with
  | some (_, value) => [word, String.ofList value]
  | none => [word]

/-- The variables that an invocation may look at. -/
def variablesOf (tokens : List String) : List String :=
  Invocation.fallbacks.map (·.2) ++ ["TMPDIR", "PATH"] ++
    tokens.filterMap fun token =>
      match Designator.parse token with
      | .ok (.variable name) => some name
      | _ => none

def readVariables (names : List String) : IO Environment := do
  let entries ← names.filterMapM fun name => do
    return (← IO.getEnv name).map fun value => (name, Text.encode value)
  return Environment.empty.setAll entries

/-- Add the files that tokens name to a tree. -/
def readFiles (directory : Location) (tokens : List String) (tree : FileTree) :
    IO FileTree :=
  tokens.foldlM (fun tree token => do
    let path := Text.strip token
    try
      let data ← IO.FS.readBinFile path
      let start := if (Path.ofText path).isAbsolute then [] else directory
      return tree.plant start (.file data.toList) (Path.ofText path).names
    catch _ => return tree) tree

/-- Read a stream to its end. -/
partial def readToEnd (stream : IO.FS.Stream) (data : ByteArray) : IO ByteArray := do
  let chunk ← stream.read 65536
  if chunk.isEmpty then return data else readToEnd stream (data ++ chunk)

/-- Write an outcome and return the exit status. -/
def emit (outcome : Outcome) : IO UInt32 := do
  (← IO.getStdout).write ⟨outcome.output.toArray⟩
  (← IO.getStderr).write ⟨outcome.report.toArray⟩
  return outcome.status.toUInt32

def runWords (words : List String) : IO UInt32 := do
  let tokens := words.flatMap tokensOf
  let environment ← readVariables (variablesOf tokens)
  let directory := (Path.ofText (← IO.currentDir).toString).names
  let host := Host.bare environment directory
  let words := words.map Text.encode
  match Invocation.parse environment.get? words with
  | .error refusal => emit (.refused refusal ⟨.empty, []⟩)
  | .ok invocation =>
      let scratch := (host.scratchParent invocation.config.scratchParent).names
      let directories := [directory, scratch].foldl
        (fun tree location => tree.plant [] .directory location) FileTree.standard
      let files ← readFiles directory tokens directories
      let input ← readToEnd (← IO.getStdin) .empty
      emit (.ofWords host words input.toList ⟨files, []⟩)

end Cli
end StatelessPgp

def main (words : List String) : IO UInt32 :=
  StatelessPgp.Cli.runWords words
