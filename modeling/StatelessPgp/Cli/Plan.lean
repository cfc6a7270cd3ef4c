import StatelessPgp.Cli.Request
import StatelessPgp.Operation.Basic

/-!
# Plans

A plan says how a request for an operation is carried out: what the request must
hold, which outputs are checked beforehand, where the settings of the operation
come from, and what is done with its result.  The same steps then carry out every
plan.
-/

namespace StatelessPgp
namespace Cli

/-- Where a setting comes from. -/
inductive Source where
  | given (setting : Setting)
  /-- It holds the data that a token names. -/
  | secret (purpose : String) (make : Bytes → Setting) (token : String)
  /-- It is the session key in the data that a token names. -/
  | sessionKey (token : String)

/-- What is done after an operation. -/
structure Delivery where
  printed : String := ""
  /-- What is written to which output, in order. -/
  outputs : List (String × Bytes) := []
  deriving DecidableEq, Repr

/-- How a request is carried out. -/
structure Plan where
  operation : Operation
  /-- What is wrong with the request itself. -/
  objection : Option Failure := none
  /-- The outputs that are checked beforehand, in order. -/
  outputs : List String := []
  /-- Where the settings come from, in order. -/
  sources : List Source
  /-- What is done with the result. -/
  deliver : operation.Result → Except Failure Delivery

namespace Source

/-- A setting if a flag is set. -/
def flag (isSet : Bool) (setting : Setting) : List Source :=
  if isSet then [.given setting] else []

/-- A setting for a value that may be missing. -/
def value {α : Type} (make : α → Setting) (value : Option α) : List Source :=
  value.toList.map fun value => .given (make value)

/-- Settings for the data that tokens name. -/
def secrets (purpose : String) (make : Bytes → Setting) (tokens : List String) :
    List Source :=
  tokens.map (.secret purpose make)

end Source

namespace Delivery

/-- Write one text to an output that may not be wanted. -/
def toOutput (token : Option String) (data : Bytes) : Delivery :=
  { outputs := token.toList.map fun token => (token, data) }

/-- The lines of verifications. -/
def report (verifications : List Verification) : Bytes :=
  Text.encode (Verification.renderAll verifications)

/-- Write a session key, which must then have been reported, to an output that
may not be wanted. -/
def sessionKey (token : Option String) (key : Option SessionKey) :
    Except Failure Delivery :=
  match token, key with
  | none, _ => .ok {}
  | some _, none =>
      .error (.new .unsupportedOption "Backend did not report a session key.")
  | some token, some key =>
      .ok { outputs := [(token, Text.encode (key.render ++ "\n"))] }

end Delivery

/-- A plan in which the output of the operation is all that is wanted. -/
def Plan.simple (operation : Operation) (sources : List Source) : Plan :=
  { operation, sources, deliver := fun _ => .ok {} }

namespace Encryption

def plan (request : Encryption) : Plan where
  operation := .encrypt
  objection :=
    if request.passwords.isEmpty && request.certs.isEmpty then
      some (.new .missingArg
        "At least one password or certificate is required for encryption.")
    else none
  outputs := request.sessionKeyOut.toList
  sources :=
    Source.flag request.noArmor .noArmor ++
      Source.value .encryptAs request.mode ++
      Source.value .encryptFor request.purpose ++
      Source.value .profile request.profile ++
      Source.secrets "key password" .keyPassword request.keyPasswords ++
      Source.secrets "signing key" .signWith request.signers ++
      Source.secrets "password" .password request.passwords ++
      Source.secrets "certificate" .cert request.certs
  deliver := Delivery.sessionKey request.sessionKeyOut

end Encryption

namespace Decrypting

/-- What is wrong with a request to decrypt. -/
def objection (request : Decrypting) : Option Failure :=
  if request.verificationsOut.isSome && request.verifiers.isEmpty then
    some (.new .incompleteVerification
      "--verifications-out requires at least one --verify-with certificate.")
  else if request.sessionKeys.isEmpty && request.passwords.isEmpty &&
      request.keys.isEmpty then
    some (.new .missingArg
      "Decryption needs a KEY, --with-password or --with-session-key.")
  else none

def plan (request : Decrypting) : Plan where
  operation := .decrypt
  objection := request.objection
  outputs := request.sessionKeyOut.toList ++ request.verificationsOut.toList
  sources :=
    Source.value .notBefore request.notBefore ++
      Source.value .notAfter request.notAfter ++
      Source.secrets "certificate" .verifyWith request.verifiers ++
      request.sessionKeys.map .sessionKey ++
      Source.secrets "password" .password request.passwords ++
      Source.secrets "key password" .keyPassword request.keyPasswords ++
      Source.secrets "key" .key request.keys
  deliver := fun (result : Decryption) => do
    let first ← Delivery.sessionKey request.sessionKeyOut result.sessionKey
    let second :=
      Delivery.toOutput request.verificationsOut (Delivery.report result.verifications)
    return { outputs := first.outputs ++ second.outputs }

end Decrypting

namespace Task

/-- What is done when a user ID has been checked. -/
def deliverMatch (userId : String) (matched : Bool) : Except Failure Delivery :=
  if matched then .ok {}
  else
    .error (.new .certUserIdNoMatch
      ("No certificate carries a valid user ID '" ++ userId ++ "'."))

/-- What is done when signatures have been verified: without any, it was in
vain. -/
def deliverVerified (verifications : List Verification) : Except Failure Delivery :=
  if verifications.isEmpty then
    .error (.new .noSignature "No verifiable signature found.")
  else .ok { printed := Verification.renderAll verifications }

def plan : Task → Plan
  | .generateKey noArmor keyPassword profile signingOnly userIds =>
      .simple .generateKey
        (Source.flag noArmor .noArmor ++
          Source.value .profile profile ++
          Source.flag signingOnly .signingOnly ++
          Source.secrets "key password" .keyPassword keyPassword.toList ++
          userIds.map fun text => .given (.userId text))
  | .changeKeyPassword noArmor newPassword oldPasswords =>
      .simple .changeKeyPassword
        (Source.flag noArmor .noArmor ++
          Source.secrets "old key password" .oldKeyPassword oldPasswords ++
          Source.secrets "new key password" .newKeyPassword newPassword.toList)
  | .revokeKey noArmor keyPasswords =>
      .simple .revokeKey
        (Source.flag noArmor .noArmor ++
          Source.secrets "key password" .keyPassword keyPasswords)
  | .extractCert noArmor =>
      .simple .extractCert (Source.flag noArmor .noArmor)
  | .updateKey noArmor signingOnly noAddedCapabilities keyPasswords certs =>
      .simple .updateKey
        (Source.flag noArmor .noArmor ++
          Source.flag signingOnly .signingOnly ++
          Source.flag noAddedCapabilities .noNewMechanisms ++
          Source.secrets "key password" .keyPassword keyPasswords ++
          Source.secrets "certificates" .cert certs)
  | .mergeCerts noArmor certs =>
      .simple .mergeCerts
        (Source.flag noArmor .noArmor ++ Source.secrets "certificates" .cert certs)
  | .certifyUserId noArmor userIds keyPasswords noRequireSelfSig keys =>
      .simple .certifyUserId
        (Source.flag noArmor .noArmor ++
          userIds.map (fun text => .given (.userId text)) ++
          Source.secrets "key password" .keyPassword keyPasswords ++
          Source.flag noRequireSelfSig .noRequireSelfSig ++
          Source.secrets "key" .key keys)
  | .validateUserId addrSpecOnly validateAt userId authorities =>
      { operation := .validateUserId
        sources :=
          Source.flag addrSpecOnly .addrSpecOnly ++
            Source.value .validateAt validateAt ++
            Source.secrets "certificate" .cert authorities ++
            [.given (.userId userId)]
        deliver := deliverMatch userId }
  | .sign noArmor mode keyPasswords micAlgOut keys =>
      { operation := .sign
        outputs := micAlgOut.toList
        sources :=
          Source.flag noArmor .noArmor ++
            Source.value .signAs mode ++
            Source.secrets "key password" .keyPassword keyPasswords ++
            Source.secrets "key" .key keys
        deliver := fun (digest : MicAlg) =>
          .ok (.toOutput micAlgOut (Text.encode digest.text)) }
  | .verify notBefore notAfter signatures certs =>
      { operation := .verify
        sources :=
          Source.value .notBefore notBefore ++
            Source.value .notAfter notAfter ++
            Source.secrets "signature" .signatures [signatures] ++
            Source.secrets "certificate" .cert certs
        deliver := deliverVerified }
  | .encrypt encryption => encryption.plan
  | .decrypt decrypting => decrypting.plan
  | .inlineDetach noArmor signaturesOut =>
      { operation := .inlineDetach
        outputs := [signaturesOut]
        sources := Source.flag noArmor .noArmor
        deliver := fun (signatures : Bytes) =>
          .ok (.toOutput (some signaturesOut) signatures) }
  | .inlineSign noArmor mode keyPasswords keys =>
      .simple .inlineSign
        (Source.flag noArmor .noArmor ++
          Source.value .inlineSignAs mode ++
          Source.secrets "key password" .keyPassword keyPasswords ++
          Source.secrets "key" .key keys)
  | .inlineVerify notBefore notAfter verificationsOut certs =>
      { operation := .inlineVerify
        outputs := verificationsOut.toList
        sources :=
          Source.value .notBefore notBefore ++
            Source.value .notAfter notAfter ++
            Source.secrets "certificate" .cert certs
        deliver := fun (verifications : List Verification) =>
          .ok (.toOutput verificationsOut (Delivery.report verifications)) }
  | .armor label => .simple .armor (Source.value .label label)
  | .dearmor => .simple .dearmor []

end Task
end Cli
end StatelessPgp
