import StatelessPgp.Failure.Basic
import StatelessPgp.Text.Utf8

/-!
# Secrets

A secret reaches the backend as a variable of its environment, and the command
line only refers to that variable.  Secrets come in categories, and a variable is
named by its category and by how many secrets of the category came before.
-/

namespace StatelessPgp

/-- What a secret is for. -/
inductive Category where
  | password
  | keyPassword
  | sessionKey
  | key
  | cert
  | signWith
  | verifyWith
  | signature
  deriving DecidableEq, Repr

namespace Category

/-- All categories in the order in which they are counted. -/
def all : List Category :=
  [.password, .keyPassword, .sessionKey, .key, .cert, .signWith, .verifyWith,
    .signature]

def label : Category → String
  | .password => "PASSWORD"
  | .keyPassword => "KEY_PASSWORD"
  | .sessionKey => "SESSION_KEY"
  | .key => "KEY"
  | .cert => "CERT"
  | .signWith => "SIGN_WITH"
  | .verifyWith => "VERIFY_WITH"
  | .signature => "SIGNATURE"

end Category

/-- What stands before the name of a variable where a word refers to it. -/
def environmentMark : String := "@ENV:"

/-- A secret and the variable that carries it. -/
structure Binding where
  category : Category
  /-- How many secrets of the category came before. -/
  index : Nat
  value : Bytes
  deriving DecidableEq, Repr

namespace Binding

def name (binding : Binding) : String :=
  binding.category.label ++ "_" ++ String.ofList (Text.digits binding.index)

/-- The word that refers to the variable. -/
def reference (binding : Binding) : String :=
  environmentMark ++ binding.name

/-- Whether the environment can carry the secret: it ends a value at a byte of
zero. -/
def isPortable (binding : Binding) : Bool :=
  !binding.value.contains 0

def redacted (binding : Binding) : String :=
  "SecretBinding \x7b name: " ++ "\"" ++ binding.name ++ "\"" ++
    ", value: \"[REDACTED]\" \x7d"

end Binding

/-- The secrets of a command line in the order in which they were given. -/
abbrev Secrets := List Binding

namespace Secrets

def count (secrets : Secrets) (category : Category) : Nat :=
  secrets.countP fun binding => decide (binding.category = category)

/-- The binding that the next secret of a category gets. -/
def next (secrets : Secrets) (category : Category) (value : Bytes) : Binding :=
  ⟨category, secrets.count category, value⟩

/-- Descriptions of all bindings, in brackets. -/
def redacted (secrets : Secrets) : String :=
  "[" ++ String.intercalate ", " (secrets.map Binding.redacted) ++ "]"

/-- A description with the number of secrets of each category. -/
def allocation (secrets : Secrets) : String :=
  let counts := Category.all.map fun category =>
    String.ofList (Text.digits (secrets.count category))
  "SecretAllocator \x7b counters: [" ++ String.intercalate ", " counts ++
    "], bindings: " ++ secrets.redacted ++ " \x7d"

def validate (secrets : Secrets) : Except Failure Unit :=
  match secrets.find? fun binding => !binding.isPortable with
  | none => .ok ()
  | some binding =>
      .error (.new .badData
        ("Secret " ++ binding.name ++ " contains a NUL byte and cannot be passed " ++
          "through the environment; pass armored data instead"))

end Secrets
end StatelessPgp
