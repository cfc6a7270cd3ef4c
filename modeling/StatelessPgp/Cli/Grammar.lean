import StatelessPgp.Text.Utf8

/-!
# Grammars of command lines

A grammar lists the options and positional arguments of a command.  Words are
read from left to right.  An option may take its value from the same word, after
an equals sign, or from the next word; values are held back until the next option
or positional argument begins, and only then are they checked.
-/

namespace StatelessPgp
namespace Cli

/-- Why a command line is not executed. -/
inductive Refusal where
  | help
  | version
  | unknownSubcommand
  /-- An argument or the subcommand is missing. -/
  | missing
  /-- Arguments exclude each other, or one is given twice. -/
  | conflict
  /-- An option is unknown, or a value is not allowed. -/
  | unsupported
  deriving DecidableEq, Repr

/-- How many values an option takes. -/
inductive Arity where
  | flag
  | one
  /-- All words up to the next option, at least one. -/
  | many
  deriving DecidableEq, Repr

structure OptionRule where
  /-- The name, without hyphens. -/
  name : String
  arity : Arity := .flag
  /-- Whether it may be given more than once. -/
  repeatable : Bool := false
  required : Bool := false
  aliases : List String := []
  excludes : List String := []
  allows : Bytes → Bool := fun value => (Text.decode? value).isSome

/-- The rule of a positional argument.  It must be text. -/
structure PositionalRule where
  name : String
  /-- Whether it takes all words that are left. -/
  multiple : Bool := false
  required : Bool := true

structure Grammar where
  options : List OptionRule
  /-- The positional arguments in order.  Only the last takes more than one. -/
  positionals : List PositionalRule := []
  /-- Whether the version can be asked for. -/
  hasVersion : Bool := false

/-- The arguments that were given, each with its values in order.  A flag has no
values. -/
abbrev Arguments := List (String × List Bytes)

namespace Arguments

def has (arguments : Arguments) (name : String) : Bool :=
  (arguments.lookup name).isSome

def values (arguments : Arguments) (name : String) : List Bytes :=
  (arguments.lookup name).getD []

def add (arguments : Arguments) (name : String) (values : List Bytes) : Arguments :=
  if arguments.has name then
    arguments.map fun entry =>
      if entry.1 = name then (name, entry.2 ++ values) else entry
  else arguments ++ [(name, values)]

end Arguments

/-- How far a command line has been read. -/
structure Progress where
  /-- The arguments whose values have been checked. -/
  found : Arguments := []
  /-- The argument whose values are held back. -/
  pending : Option (String × List Bytes) := none
  /-- Whether the next word is a value of an option unless it looks like one. -/
  expectsValue : Bool := false
  /-- The number of positional arguments that are complete. -/
  position : Nat := 0
  trailing : Bool := false
  deriving DecidableEq, Repr

namespace Grammar

/-- The rule of an option by one of its names. -/
def option? (grammar : Grammar) (name : String) : Option OptionRule :=
  grammar.options.find? fun rule => rule.name == name || rule.aliases.contains name

/-- Check an occurrence of an argument and add it to those found. -/
def accept (grammar : Grammar) (arguments : Arguments) (name : String)
    (values : List Bytes) : Except Refusal Arguments :=
  match grammar.options.find? fun rule => rule.name == name with
  | none =>
      if values.all fun value => (Text.decode? value).isSome then
        .ok (arguments.add name values)
      else .error .unsupported
  | some rule =>
      if rule.arity ≠ .flag ∧ values.isEmpty then .error .unsupported
      else if !rule.repeatable && arguments.has name then .error .conflict
      else if values.all rule.allows then .ok (arguments.add name values)
      else .error .unsupported

/-- Check the values held back. -/
def settle (grammar : Grammar) (progress : Progress) : Except Refusal Progress :=
  match progress.pending with
  | none => .ok progress
  | some (name, values) =>
      (grammar.accept progress.found name values).map fun found =>
        { progress with found, pending := none }

/-- Read an option with the value attached to it, if any. -/
def readOption (grammar : Grammar) (progress : Progress) (name : String)
    (attached : Option Bytes) : Except Refusal Progress :=
  match grammar.option? name, attached with
  | none, some _ => .error .unsupported
  | none, none =>
      if name = "help" then (grammar.settle progress).bind fun _ => .error .help
      else if name = "version" ∧ grammar.hasVersion then
        (grammar.settle progress).bind fun _ => .error .version
      else .error .unsupported
  | some rule, some value =>
      if rule.arity = .flag then .error .unsupported
      else do
        let progress ← grammar.settle progress
        let found ← grammar.accept progress.found rule.name [value]
        return { progress with found, expectsValue := false }
  | some rule, none => do
      let progress ← grammar.settle progress
      if rule.arity = .flag then
        let found ← grammar.accept progress.found rule.name []
        return { progress with found, expectsValue := false }
      else
        return { progress with pending := some (rule.name, []), expectsValue := true }

/-- Read a word of one hyphen and letters, of which the first decides. -/
def readLetters (grammar : Grammar) (progress : Progress) (letter : UInt8) :
    Except Refusal Progress :=
  if letter = 104 then (grammar.settle progress).bind fun _ => .error .help
  else if letter = 86 ∧ grammar.hasVersion then
    (grammar.settle progress).bind fun _ => .error .version
  else .error .unsupported

/-- Read a word as a value of the option before it. -/
def readValue (grammar : Grammar) (progress : Progress) (word : Bytes) : Progress :=
  match progress.pending with
  | none => { progress with expectsValue := false }
  | some (name, values) =>
      { progress with
        pending := some (name, values ++ [word])
        expectsValue := match grammar.option? name with
          | some rule => rule.arity = .many
          | none => false }

/-- Read a word as a positional argument.  One that is too many is handed to the
caller's judgement. -/
def readPositional (grammar : Grammar) (surplus : Refusal) (progress : Progress)
    (word : Bytes) : Except Refusal Progress :=
  match grammar.positionals[progress.position]? with
  | none => .error surplus
  | some rule =>
      match progress.pending with
      | some (name, values) =>
          if rule.multiple ∧ name = rule.name then
            .ok { progress with pending := some (name, values ++ [word]) }
          else do
            let progress ← grammar.settle progress
            return place rule progress
      | none => .ok (place rule progress)
where
  place (rule : PositionalRule) (progress : Progress) : Progress :=
    { progress with
      pending := some (rule.name, [word])
      position := if rule.multiple then progress.position else progress.position + 1
      expectsValue := false }

/-- What kind of word a word is. -/
inductive Shape where
  | separator
  /-- Two hyphens and a name, with a value after an equals sign. -/
  | option (name : Option String) (attached : Option Bytes)
  | letters (first : UInt8)
  | plain
  deriving DecidableEq, Repr

/-- The shape of a word.  The name of an option that is not text is missing. -/
def shape (word : Bytes) : Shape :=
  match word with
  | [45, 45] => .separator
  | 45 :: 45 :: rest =>
      let name := rest.takeWhile (· != 61)
      let attached := match rest.dropWhile (· != 61) with
        | [] => none
        | _ :: value => some value
      .option (Text.decode? name) attached
  | 45 :: first :: _ => .letters first
  | _ => .plain

def advance (grammar : Grammar) (surplus : Refusal) (progress : Progress)
    (word : Bytes) : Except Refusal Progress :=
  if progress.trailing then grammar.readPositional surplus progress word
  else
    match shape word with
    | .separator => .ok { progress with trailing := true }
    | .option none _ => .error .unsupported
    | .option (some name) attached => grammar.readOption progress name attached
    | .letters first => grammar.readLetters progress first
    | .plain =>
        if progress.expectsValue then .ok (grammar.readValue progress word)
        else grammar.readPositional surplus progress word

def advanceAll (grammar : Grammar) (progress : Progress) :
    List Bytes → Except Refusal Progress
  | [] => .ok progress
  | word :: words => do
      let progress ← grammar.advance .unsupported progress word
      advanceAll grammar progress words

def hasConflict (grammar : Grammar) (arguments : Arguments) : Bool :=
  grammar.options.any fun rule =>
    arguments.has rule.name && rule.excludes.any arguments.has

/-- Whether a required argument is missing. -/
def lacksRequired (grammar : Grammar) (arguments : Arguments) : Bool :=
  grammar.options.any (fun rule => rule.required && !arguments.has rule.name) ||
    grammar.positionals.any fun rule => rule.required && !arguments.has rule.name

/-- The arguments of a complete command line. -/
def conclude (grammar : Grammar) (progress : Progress) : Except Refusal Arguments := do
  let progress ← grammar.settle progress
  if grammar.hasConflict progress.found then throw .conflict
  if grammar.lacksRequired progress.found then throw .missing
  return progress.found

def parse (grammar : Grammar) (words : List Bytes) : Except Refusal Arguments := do
  let progress ← grammar.advanceAll {} words
  grammar.conclude progress

end Grammar

namespace Refusal

/-- The exit status for a command line that is not executed. -/
def status : Refusal → Nat
  | .help | .version => 0
  | .unknownSubcommand => 69
  | .missing => 19
  | .conflict => 83
  | .unsupported => 37

end Refusal
end Cli
end StatelessPgp
