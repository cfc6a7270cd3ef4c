import StatelessPgp.Inquiry
import StatelessPgp.Keyword
import StatelessPgp.Time.Bound

/-!
# Requests

A request is what a command line asks for.  Data is still named by tokens, which
are read only when the request is carried out; everything else has its type
already.
-/

namespace StatelessPgp
namespace Cli

structure Encryption where
  noArmor : Bool
  mode : Option EncryptAs
  /-- What the message is encrypted for. -/
  purpose : Option EncryptFor
  passwords : List String
  signers : List String
  keyPasswords : List String
  /-- Where the session key is written. -/
  sessionKeyOut : Option String
  profile : Option String
  /-- Certificates for which the message is encrypted. -/
  certs : List String
  deriving DecidableEq, Repr

structure Decrypting where
  /-- Where the session key is written. -/
  sessionKeyOut : Option String
  /-- Session keys that may open the message. -/
  sessionKeys : List String
  /-- Passwords that may open the message. -/
  passwords : List String
  verificationsOut : Option String
  /-- Certificates that signatures are checked against. -/
  verifiers : List String
  /-- Signatures before this time do not count. -/
  notBefore : Option TimeBound
  /-- Signatures after this time do not count. -/
  notAfter : Option TimeBound
  keyPasswords : List String
  /-- Keys that may open the message. -/
  keys : List String
  deriving DecidableEq, Repr

/-- An operation that a command line asks for. -/
inductive Task where
  | generateKey (noArmor : Bool) (keyPassword profile : Option String)
      (signingOnly : Bool) (userIds : List String)
  | changeKeyPassword (noArmor : Bool) (newPassword : Option String)
      (oldPasswords : List String)
  | revokeKey (noArmor : Bool) (keyPasswords : List String)
  | extractCert (noArmor : Bool)
  | updateKey (noArmor signingOnly noAddedCapabilities : Bool)
      (keyPasswords certs : List String)
  | mergeCerts (noArmor : Bool) (certs : List String)
  | certifyUserId (noArmor : Bool) (userIds keyPasswords : List String)
      (noRequireSelfSig : Bool) (keys : List String)
  /-- Check that a user ID is certified. -/
  | validateUserId (addrSpecOnly : Bool) (validateAt : Option TimeBound)
      (userId : String) (authorities : List String)
  | sign (noArmor : Bool) (mode : Option SignAs) (keyPasswords : List String)
      (micAlgOut : Option String) (keys : List String)
  | verify (notBefore notAfter : Option TimeBound) (signatures : String)
      (certs : List String)
  | encrypt (encryption : Encryption)
  | decrypt (decrypting : Decrypting)
  /-- Split a signed message into message and signatures. -/
  | inlineDetach (noArmor : Bool) (signaturesOut : String)
  | inlineSign (noArmor : Bool) (mode : Option InlineSignAs)
      (keyPasswords keys : List String)
  /-- Verify a message that is signed inline. -/
  | inlineVerify (notBefore notAfter : Option TimeBound)
      (verificationsOut : Option String) (certs : List String)
  | armor (label : Option ArmorLabel)
  | dearmor
  deriving DecidableEq, Repr

/-- A question about the backend that a command line asks. -/
inductive Question where
  /-- The name and version, or the answer to a query. -/
  | version (query : Option VersionQuery)
  | profiles (subcommand : String)
  deriving DecidableEq, Repr

/-- What a command line asks for. -/
inductive Request where
  | inquire (question : Question)
  | operate (task : Task)
  deriving DecidableEq, Repr

end Cli
end StatelessPgp
