import StatelessPgp.Cli.Subcommand

/-!
# Invocations of the command line

A whole command line consists of options about the backend, the name of a
subcommand, and the words after it.  For some of the options a variable of the
environment takes the place of an option that is not given.
-/

namespace StatelessPgp
namespace Cli

/-- A command line that has been understood. -/
structure Invocation where
  config : Config
  request : Request
  deriving DecidableEq, Repr

namespace Invocation

def seconds? (word : Bytes) : Option Nat :=
  (Text.decode? word).bind fun text => Text.readBounded? (Nat.pow 2 64) text.toList

/-- Read a name and a value with an equals sign between.  The name must not be
empty. -/
def assignment? (word : Bytes) : Option (String × String) := do
  let text ← Text.decode? word
  let (name, value) ← Text.cutFirst ['='] text.toList
  if name.isEmpty then none else some (String.ofList name, String.ofList value)

/-- The grammar of the words before the subcommand. -/
def grammar : Grammar :=
  { options :=
      [{ name := "backend", arity := .one, allows := fun word => !word.isEmpty },
        { name := "backend-timeout", arity := .one,
          allows := fun word => (seconds? word).isSome },
        { name := "backend-env", arity := .one, repeatable := true,
          allows := fun word => (assignment? word).isSome },
        { name := "temp-dir", arity := .one, allows := fun word => !word.isEmpty },
        flag "debug"]
    hasVersion := true }

/-- The options that a variable of the environment can take the place of. -/
def fallbacks : List (String × String) :=
  [("backend", "SOP_BACKEND"), ("backend-timeout", "SOP_BACKEND_TIMEOUT"),
    ("temp-dir", "SOP_TEMP_DIR")]

/-- Take the values of options that are not given from the environment. -/
def complete (lookup : String → Option Bytes) (arguments : Arguments) :
    Except Refusal Arguments :=
  fallbacks.foldlM
    (fun arguments (option, name) =>
      if arguments.has option then .ok arguments
      else
        match lookup name with
        | none => .ok arguments
        | some value => grammar.accept arguments option [value])
    arguments

/-- How the backend is run according to the options. -/
def configOf (arguments : Arguments) : Config :=
  let binary := ((arguments.values "backend").head?).getD (Path.ofText "sop")
  let base := ((arguments.values "backend-env").filterMap assignment?).foldl
    (fun config (name, value) => config.withVariable name value) (Config.new binary)
  { base with
    timeout := ((arguments.values "backend-timeout").head?.bind seconds?).map
      Duration.ofSeconds
    scratchParent := match (arguments.values "temp-dir").head? with
      | some directory => .within directory
      | none => .system }

/-- The word that asks for help about what follows it. -/
def helpWord : Bytes := Text.encode "help"

/-- Whether a word names a subcommand or asks for help. -/
def isSubcommand (word : Bytes) : Bool :=
  word == helpWord || (Subcommand.named? word).isSome

/-- The answer to a request for help about subcommands, of which none has
subcommands of its own. -/
def help : List Bytes → Refusal
  | [] => .help
  | [word] => if isSubcommand word then .help else .unknownSubcommand
  | _ => .unknownSubcommand

/-- Read words up to the name of a subcommand, and the request in the words after
it.  After two hyphens alone no subcommand can come, and the name of one is then
an unexpected argument. -/
def advance (progress : Progress) :
    List Bytes → Except Refusal (Progress × Option Request)
  | [] => .ok (progress, none)
  | word :: words =>
      if progress.trailing then
        .error (if isSubcommand word then .unsupported else .unknownSubcommand)
      else if !progress.expectsValue && word == helpWord then .error (help words)
      else
        match if progress.expectsValue then none else Subcommand.named? word with
        | some subcommand =>
            (subcommand.parse words).map fun request => (progress, some request)
        | none => do
            let progress ← grammar.advance .unknownSubcommand progress word
            advance progress words

/-- Read a command line without the name of the program.  What comes after the
subcommand is judged before the options in front of it. -/
def parse (lookup : String → Option Bytes) (words : List Bytes) :
    Except Refusal Invocation := do
  let (progress, request) ← advance {} words
  let progress ← grammar.settle progress
  let arguments ← complete lookup progress.found
  match request with
  | none => throw .missing
  | some request => return ⟨configOf arguments, request⟩

end Invocation
end Cli
end StatelessPgp
