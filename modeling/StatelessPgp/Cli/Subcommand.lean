import StatelessPgp.Cli.Grammar
import StatelessPgp.Cli.Request

/-!
# Subcommands

Each subcommand has a name, a grammar for the words after it, and a way to read a
request from arguments that the grammar accepts.  The grammar has checked all
values by then, so that reading them again cannot fail.
-/

namespace StatelessPgp
namespace Cli

/-- A type of values that an argument can have. -/
class Value (α : Type) where
  read? : String → Option α

instance : Value String where
  read? := some

instance : Value TimeBound where
  read? text := (TimeBound.parse text).toOption

instance {α : Type} [Keyword α] : Value α where
  read? := Keyword.ofWord?

/-- Read a value from the bytes of a word. -/
def readValue? (α : Type) [Value α] (word : Bytes) : Option α :=
  (Text.decode? word).bind Value.read?

def flag (name : String) : OptionRule :=
  { name }

/-- The rule of an option with one value. -/
def single (α : Type) [Value α] (name : String) : OptionRule :=
  { name, arity := .one, allows := fun word => (readValue? α word).isSome }

/-- The rule of an option with one value that may be given more than once. -/
def repeated (name : String) : OptionRule :=
  { name, arity := .one, repeatable := true }

namespace Arguments

def all (arguments : Arguments) (name : String) : List String :=
  (arguments.values name).filterMap (readValue? String)

def value? {α : Type} [Value α] (arguments : Arguments) (name : String) : Option α :=
  (arguments.values name).head?.bind (readValue? α)

/-- The value of an argument that must be given. -/
def required (arguments : Arguments) (name : String) : String :=
  (arguments.value? name).getD ""

end Arguments

/-- A subcommand. -/
structure Subcommand where
  name : String
  grammar : Grammar
  request : Arguments → Request

namespace Subcommand

/-- The flags of a query for a version, of which only one may be given. -/
def versionFlags : List (String × VersionQuery) :=
  [("backend", .backend), ("extended", .extended), ("sop-spec", .specification),
    ("sopv", .verifier)]

def version : Subcommand where
  name := "version"
  grammar :=
    { options := versionFlags.map fun (name, _) =>
        { name, excludes := (versionFlags.map (·.1)).filter (· != name) } }
  request arguments :=
    .inquire
      (.version ((versionFlags.find? fun (name, _) => arguments.has name).map (·.2)))

def listProfiles : Subcommand where
  name := "list-profiles"
  grammar := { options := [], positionals := [{ name := "subcommand" }] }
  request arguments := .inquire (.profiles (arguments.required "subcommand"))

def generateKey : Subcommand where
  name := "generate-key"
  grammar :=
    { options :=
        [flag "no-armor", single String "with-key-password", single String "profile",
          flag "signing-only"]
      positionals := [{ name := "user-ids", multiple := true, required := false }] }
  request arguments :=
    .operate
      (.generateKey (arguments.has "no-armor") (arguments.value? "with-key-password")
        (arguments.value? "profile") (arguments.has "signing-only")
        (arguments.all "user-ids"))

def changeKeyPassword : Subcommand where
  name := "change-key-password"
  grammar :=
    { options :=
        [flag "no-armor", single String "new-key-password", repeated "old-key-password"] }
  request arguments :=
    .operate
      (.changeKeyPassword (arguments.has "no-armor") (arguments.value? "new-key-password")
        (arguments.all "old-key-password"))

def revokeKey : Subcommand where
  name := "revoke-key"
  grammar := { options := [flag "no-armor", repeated "with-key-password"] }
  request arguments :=
    .operate
      (.revokeKey (arguments.has "no-armor") (arguments.all "with-key-password"))

def extractCert : Subcommand where
  name := "extract-cert"
  grammar := { options := [flag "no-armor"] }
  request arguments := .operate (.extractCert (arguments.has "no-armor"))

/-- Bring keys up to date. -/
def updateKey : Subcommand where
  name := "update-key"
  grammar :=
    { options :=
        [flag "no-armor", flag "signing-only", flag "no-added-capabilities",
          repeated "with-key-password",
          { name := "merge-certs", arity := .many, repeatable := true }] }
  request arguments :=
    .operate
      (.updateKey (arguments.has "no-armor") (arguments.has "signing-only")
        (arguments.has "no-added-capabilities") (arguments.all "with-key-password")
        (arguments.all "merge-certs"))

def mergeCerts : Subcommand where
  name := "merge-certs"
  grammar :=
    { options := [flag "no-armor"]
      positionals := [{ name := "certs", multiple := true }] }
  request arguments :=
    .operate
      (.mergeCerts (arguments.has "no-armor") (arguments.all "certs"))

def certifyUserId : Subcommand where
  name := "certify-userid"
  grammar :=
    { options :=
        [flag "no-armor", { repeated "userid" with required := true },
          repeated "with-key-password", flag "no-require-self-sig"]
      positionals := [{ name := "keys", multiple := true }] }
  request arguments :=
    .operate
      (.certifyUserId (arguments.has "no-armor") (arguments.all "userid")
        (arguments.all "with-key-password") (arguments.has "no-require-self-sig")
        (arguments.all "keys"))

/-- Check that a user ID is certified. -/
def validateUserId : Subcommand where
  name := "validate-userid"
  grammar :=
    { options := [flag "addr-spec-only", single TimeBound "validate-at"]
      positionals := [{ name := "user-id" }, { name := "authorities", multiple := true }] }
  request arguments :=
    .operate
      (.validateUserId (arguments.has "addr-spec-only") (arguments.value? "validate-at")
        (arguments.required "user-id") (arguments.all "authorities"))

def sign : Subcommand where
  name := "sign"
  grammar :=
    { options :=
        [flag "no-armor", single SignAs "as", repeated "with-key-password",
          single String "micalg-out"]
      positionals := [{ name := "keys", multiple := true }] }
  request arguments :=
    .operate
      (.sign (arguments.has "no-armor") (arguments.value? "as")
        (arguments.all "with-key-password") (arguments.value? "micalg-out")
        (arguments.all "keys"))

def verify : Subcommand where
  name := "verify"
  grammar :=
    { options := [single TimeBound "not-before", single TimeBound "not-after"]
      positionals := [{ name := "signature" }, { name := "certs", multiple := true }] }
  request arguments :=
    .operate
      (.verify (arguments.value? "not-before") (arguments.value? "not-after")
        (arguments.required "signature") (arguments.all "certs"))

def encrypt : Subcommand where
  name := "encrypt"
  grammar :=
    { options :=
        [flag "no-armor", single EncryptAs "as", single EncryptFor "for",
          repeated "with-password", repeated "sign-with", repeated "with-key-password",
          single String "session-key-out", single String "profile"]
      positionals := [{ name := "certs", multiple := true, required := false }] }
  request arguments :=
    .operate
      (.encrypt
        { noArmor := arguments.has "no-armor"
          mode := arguments.value? "as"
          purpose := arguments.value? "for"
          passwords := arguments.all "with-password"
          signers := arguments.all "sign-with"
          keyPasswords := arguments.all "with-key-password"
          sessionKeyOut := arguments.value? "session-key-out"
          profile := arguments.value? "profile"
          certs := arguments.all "certs" })

def decrypt : Subcommand where
  name := "decrypt"
  grammar :=
    { options :=
        [single String "session-key-out", repeated "with-session-key",
          repeated "with-password",
          { single String "verifications-out" with aliases := ["verify-out"] },
          repeated "verify-with", single TimeBound "verify-not-before",
          single TimeBound "verify-not-after", repeated "with-key-password"]
      positionals := [{ name := "keys", multiple := true, required := false }] }
  request arguments :=
    .operate
      (.decrypt
        { sessionKeyOut := arguments.value? "session-key-out"
          sessionKeys := arguments.all "with-session-key"
          passwords := arguments.all "with-password"
          verificationsOut := arguments.value? "verifications-out"
          verifiers := arguments.all "verify-with"
          notBefore := arguments.value? "verify-not-before"
          notAfter := arguments.value? "verify-not-after"
          keyPasswords := arguments.all "with-key-password"
          keys := arguments.all "keys" })

/-- Split a signed message into message and signatures. -/
def inlineDetach : Subcommand where
  name := "inline-detach"
  grammar :=
    { options :=
        [flag "no-armor", { single String "signatures-out" with required := true }] }
  request arguments :=
    .operate
      (.inlineDetach (arguments.has "no-armor") (arguments.required "signatures-out"))

def inlineSign : Subcommand where
  name := "inline-sign"
  grammar :=
    { options :=
        [flag "no-armor", single InlineSignAs "as", repeated "with-key-password"]
      positionals := [{ name := "keys", multiple := true }] }
  request arguments :=
    .operate
      (.inlineSign (arguments.has "no-armor") (arguments.value? "as")
        (arguments.all "with-key-password") (arguments.all "keys"))

/-- Verify a message that is signed inline. -/
def inlineVerify : Subcommand where
  name := "inline-verify"
  grammar :=
    { options :=
        [single TimeBound "not-before", single TimeBound "not-after",
          single String "verifications-out"]
      positionals := [{ name := "certs", multiple := true }] }
  request arguments :=
    .operate
      (.inlineVerify (arguments.value? "not-before") (arguments.value? "not-after")
        (arguments.value? "verifications-out") (arguments.all "certs"))

def armor : Subcommand where
  name := "armor"
  grammar := { options := [single ArmorLabel "label"] }
  request arguments := .operate (.armor (arguments.value? "label"))

def dearmor : Subcommand where
  name := "dearmor"
  grammar := { options := [] }
  request _ := .operate .dearmor

def all : List Subcommand :=
  [version, listProfiles, generateKey, changeKeyPassword, revokeKey, extractCert,
    updateKey, mergeCerts, certifyUserId, validateUserId, sign, verify, encrypt,
    decrypt, inlineDetach, inlineSign, inlineVerify, armor, dearmor]

/-- The subcommand that a word names. -/
def named? (word : Bytes) : Option Subcommand :=
  (Text.decode? word).bind fun name => all.find? fun subcommand => subcommand.name == name

/-- Read the words after a subcommand. -/
def parse (subcommand : Subcommand) (words : List Bytes) : Except Refusal Request :=
  (subcommand.grammar.parse words).map subcommand.request

end Subcommand
end Cli
end StatelessPgp
