import StatelessPgp.Secret
import StatelessPgp.Text.Quoted

/-!
# Command lines

A command line is drafted word by word and then frozen.  A secret adds a binding
to the draft and, in most cases, a word that refers to the binding.  Some
positional words must come last; they are held back until the draft is complete,
one of them in front of the others.
-/

namespace StatelessPgp

/-- A contribution to a command line. -/
inductive Piece where
  | word (text : String)
  /-- An option with its value in one word. -/
  | option (name value : String)
  /-- A word that refers to a secret. -/
  | secretWord (category : Category) (value : Bytes)
  /-- An option whose value refers to a secret. -/
  | secretOption (name : String) (category : Category) (value : Bytes)
  /-- The word in front of those held back.  It replaces an earlier one. -/
  | heldFirst (text : String)
  /-- The same, referring to a secret. -/
  | secretHeldFirst (category : Category) (value : Bytes)
  /-- A further word to hold back, referring to a secret. -/
  | secretHeld (category : Category) (value : Bytes)
  deriving DecidableEq, Repr

/-- The secret that a piece holds, with its category. -/
def Piece.secret? : Piece → Option (Category × Bytes)
  | .secretWord category value | .secretOption _ category value
  | .secretHeldFirst category value | .secretHeld category value =>
      some (category, value)
  | .word _ | .option _ _ | .heldFirst _ => none

/-- A frozen command line. -/
structure Command where
  /-- The program to run, as a text. -/
  program : String
  subcommand : String
  words : List String
  /-- The secrets that words may refer to. -/
  secrets : Secrets
  deriving DecidableEq, Repr

namespace Command

def arguments (command : Command) : List String :=
  command.subcommand :: command.words

def vector (command : Command) : List String :=
  command.program :: command.arguments

def secretNames (command : Command) : List String :=
  command.secrets.map Binding.name

def validate (command : Command) : Except Failure Unit :=
  command.secrets.validate

/-- A description that does not show secrets. -/
def redacted (command : Command) : String :=
  "Descriptor \x7b args: " ++ Text.quotedList command.vector ++ ", secrets: " ++
    command.secrets.redacted ++ " \x7d"

end Command

/-- A command line under construction. -/
structure Draft where
  /-- The program to run, as a text. -/
  program : String
  subcommand : String
  /-- The words after the subcommand so far. -/
  words : List String
  secrets : Secrets
  /-- The first of the words held back. -/
  first : Option String
  held : List String
  deriving DecidableEq, Repr

namespace Draft

/-- A draft without words after the subcommand. -/
def new (program subcommand : String) : Draft :=
  ⟨program, subcommand, [], [], none, []⟩

/-- The whole command line so far. -/
def vector (draft : Draft) : List String :=
  draft.program :: draft.subcommand :: draft.words

def word (text : String) (draft : Draft) : Draft :=
  { draft with words := draft.words ++ [text] }

def option (name value : String) (draft : Draft) : Draft :=
  draft.word (name ++ "=" ++ value)

/-- The word that will refer to the next secret of a category. -/
def nextReference (category : Category) (draft : Draft) : String :=
  (draft.secrets.next category []).reference

/-- Add a secret without a word for it. -/
def bind (category : Category) (value : Bytes) (draft : Draft) : Draft :=
  { draft with secrets := draft.secrets ++ [draft.secrets.next category value] }

def add (draft : Draft) : Piece → Draft
  | .word text => draft.word text
  | .option name value => draft.option name value
  | .secretWord category value =>
      (draft.bind category value).word (draft.nextReference category)
  | .secretOption name category value =>
      (draft.bind category value).option name (draft.nextReference category)
  | .heldFirst text => { draft with first := some text }
  | .secretHeldFirst category value =>
      { draft.bind category value with first := some (draft.nextReference category) }
  | .secretHeld category value =>
      { draft.bind category value with
        held := draft.held ++ [draft.nextReference category] }

def addAll (draft : Draft) (pieces : List Piece) : Draft :=
  pieces.foldl add draft

@[simp] theorem addAll_nil (draft : Draft) : draft.addAll [] = draft := rfl

@[simp] theorem addAll_cons (draft : Draft) (piece : Piece) (pieces : List Piece) :
    draft.addAll (piece :: pieces) = (draft.add piece).addAll pieces := rfl

theorem addAll_append (draft : Draft) (first second : List Piece) :
    draft.addAll (first ++ second) = (draft.addAll first).addAll second :=
  List.foldl_append

/-- A piece with a secret adds the next binding of its category. -/
theorem secrets_add (draft : Draft) (piece : Piece) :
    (draft.add piece).secrets =
      match piece.secret? with
      | none => draft.secrets
      | some (category, value) =>
          draft.secrets ++ [draft.secrets.next category value] := by
  cases piece <;> rfl

def append (texts : List String) (draft : Draft) : Draft :=
  { draft with words := draft.words ++ texts }

/-- The command line that has been drafted. -/
def freeze (draft : Draft) : Command :=
  ⟨draft.program, draft.subcommand, draft.words, draft.secrets⟩

def redacted (draft : Draft) : String :=
  "CommandBuilder \x7b args: " ++ Text.quotedList draft.vector ++ ", secrets: " ++
    draft.secrets.allocation ++ " \x7d"

end Draft
end StatelessPgp
