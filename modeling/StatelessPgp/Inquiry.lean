import StatelessPgp.Backend.Run
import StatelessPgp.Profile
import StatelessPgp.Text.Split

/-!
# Inquiries

A backend can be asked for its version and for the profiles of a subcommand.  Its
answers are decoded leniently, and each inquiry is a run of its own.
-/

namespace StatelessPgp

/-- The command line of an inquiry. -/
def inquiry (config : Config) (subcommand : String) (words : List String) : Command :=
  ((Draft.new config.program subcommand).append words).freeze

def inquire (host : Host) (config : Config) (subcommand : String)
    (words : List String) (world : World) : Run String :=
  let run := (inquiry config subcommand words).execute host config none world
  ⟨[], run.result.map fun _ => Text.decodeLossy run.output, run.world⟩

/-- Apply a function to the result of a run. -/
def Run.andThen {α β : Type} (run : Run α) (next : α → Except Failure β) : Run β :=
  { run with result := run.result.bind next }

/-- What can be asked about the version of a backend. -/
inductive VersionQuery where
  | name
  | version
  | backend
  | extended
  | specification
  /-- The version of the verifying subset. -/
  | verifier
  deriving DecidableEq, Repr

namespace VersionQuery

/-- The option that asks for something else than the name and version. -/
def option? : VersionQuery → Option String
  | .name | .version => none
  | .backend => some "--backend"
  | .extended => some "--extended"
  | .specification => some "--sop-spec"
  | .verifier => some "--sopv"

/-- The first line of a text without blank characters around it. -/
def firstLine (text : String) : String :=
  match Text.lines text.toList with
  | [] => ""
  | line :: _ => String.ofList (Text.trim line)

/-- The name in a line of name and version: what stands before the last space, or
all of it. -/
def nameOf (line : String) : String :=
  match Text.cutLast ' ' line.toList with
  | some (before, _) => String.ofList before
  | none => line

/-- The version in a line of name and version: what stands after the last space,
or all of it. -/
def versionOf (line : String) : String :=
  match Text.cutLast ' ' line.toList with
  | some (_, after) => String.ofList after
  | none => line

/-- The answer to a query, read from what the backend wrote. -/
def answer (query : VersionQuery) (written : String) : String :=
  match query with
  | .name => nameOf (firstLine (Text.strip written))
  | .version => versionOf (firstLine (Text.strip written))
  | _ => Text.strip written

def ask (query : VersionQuery) (host : Host) (config : Config) (world : World) :
    Run String :=
  (inquire host config "version" query.option?.toList world).andThen
    fun written => .ok (query.answer written)

/-- Ask for the name and then for the version, and join the answers. -/
def askBanner (host : Host) (config : Config) (world : World) : Run String :=
  let first := name.ask host config world
  match first.result with
  | .error failure => ⟨[], .error failure, first.world⟩
  | .ok program =>
      (VersionQuery.version.ask host config first.world).andThen
        fun number => .ok (program ++ " " ++ number)

/-- The revision of a specification: the number after the last hyphen of the
first line. -/
def revision (specification : String) : Except Failure (Option Nat) :=
  let line := firstLine specification
  match Text.cutLast '-' line.toList with
  | none => .ok none
  | some (_, revision) =>
      match Text.readBounded? (Nat.pow 2 32) revision with
      | some number => .ok (some number)
      | none =>
          .error (.because .badData ("Malformed SOP spec revision '" ++ line ++ "'")
            (numberDefect revision))
where
  /-- Why a text is no number. -/
  numberDefect (text : List Char) : String :=
    if text.isEmpty then "cannot parse integer from empty string"
    else if (Text.readBounded? (Nat.pow 10 text.length) text).isSome then
      "number too large to fit in target type"
    else "invalid digit found in string"

/-- Whether a specification is implemented in part only. -/
def isIncomplete (specification : String) : Bool :=
  specification.toList.head? == some '~'

/-- The remarks after the first line of a specification. -/
def remarks? (specification : String) : Option String :=
  (Text.cutFirst ['\n'] specification.toList).bind fun (_, rest) =>
    Text.stripped? (String.ofList rest)

end VersionQuery

namespace Profile

/-- Ask for the profiles of a subcommand. -/
def list (subcommand : String) (host : Host) (config : Config) (world : World) :
    Run (List Profile) :=
  (inquire host config "list-profiles" [subcommand] world).andThen parseAll

end Profile
end StatelessPgp
