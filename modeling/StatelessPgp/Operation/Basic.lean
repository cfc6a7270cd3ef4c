import StatelessPgp.Channels
import StatelessPgp.Command
import StatelessPgp.Digest
import StatelessPgp.Keyword
import StatelessPgp.SessionKey
import StatelessPgp.Verification.Basic

/-!
# Operations

An operation is a subcommand of the backend.  It is shaped by settings, each of
which contributes pieces to the command line; some words are held back and come
after everything else.  Further results are written to side channels, whose paths
come last of all.
-/

namespace StatelessPgp

/-- An operation on keys, certificates, messages or signatures. -/
inductive Operation where
  | generateKey
  | extractCert
  | revokeKey
  | changeKeyPassword
  | updateKey
  | mergeCerts
  | certifyUserId
  | validateUserId
  | sign
  | inlineSign
  | inlineDetach
  | verify
  | inlineVerify
  | encrypt
  | decrypt
  | armor
  | dearmor
  deriving DecidableEq, Repr

/-- Something that shapes an operation. -/
inductive Setting where
  | noArmor
  /-- The key is for signing only. -/
  | signingOnly
  /-- Nothing new is added to the key. -/
  | noNewMechanisms
  /-- User IDs need no signature of their own. -/
  | noRequireSelfSig
  /-- Only the mail address of a user ID counts. -/
  | addrSpecOnly
  | userId (text : String)
  | profile (name : String)
  | signAs (mode : SignAs)
  | inlineSignAs (mode : InlineSignAs)
  | encryptAs (mode : EncryptAs)
  /-- What a message is encrypted for. -/
  | encryptFor (purpose : EncryptFor)
  | label (label : ArmorLabel)
  /-- Signatures before this time do not count. -/
  | notBefore (bound : TimeBound)
  /-- Signatures after this time do not count. -/
  | notAfter (bound : TimeBound)
  /-- The time for which a user ID is checked. -/
  | validateAt (bound : TimeBound)
  | keyPassword (secret : Bytes)
  /-- A password that the key may have had. -/
  | oldKeyPassword (secret : Bytes)
  /-- The password that the key gets. -/
  | newKeyPassword (secret : Bytes)
  | password (secret : Bytes)
  /-- A session key of a message. -/
  | sessionKey (key : SessionKey)
  | key (secret : Bytes)
  | cert (secret : Bytes)
  /-- A secret key that signs a message. -/
  | signWith (secret : Bytes)
  /-- Certificates that signatures of a message are checked against. -/
  | verifyWith (secret : Bytes)
  | signatures (secret : Bytes)
  deriving DecidableEq, Repr

namespace Operation

def all : List Operation :=
  [.generateKey, .extractCert, .revokeKey, .changeKeyPassword, .updateKey,
    .mergeCerts, .certifyUserId, .validateUserId, .sign, .inlineSign,
    .inlineDetach, .verify, .inlineVerify, .encrypt, .decrypt, .armor, .dearmor]

def subcommand : Operation → String
  | .generateKey => "generate-key"
  | .extractCert => "extract-cert"
  | .revokeKey => "revoke-key"
  | .changeKeyPassword => "change-key-password"
  | .updateKey => "update-key"
  | .mergeCerts => "merge-certs"
  | .certifyUserId => "certify-userid"
  | .validateUserId => "validate-userid"
  | .sign => "sign"
  | .inlineSign => "inline-sign"
  | .inlineDetach => "inline-detach"
  | .verify => "verify"
  | .inlineVerify => "inline-verify"
  | .encrypt => "encrypt"
  | .decrypt => "decrypt"
  | .armor => "armor"
  | .dearmor => "dearmor"

/-- Whether the output of an operation may be armored or not. -/
def hasArmor : Operation → Bool
  | .validateUserId | .verify | .inlineVerify | .decrypt | .armor | .dearmor => false
  | _ => true

/-- Whether an operation unlocks or locks keys with a password. -/
def hasKeyPassword : Operation → Bool
  | .generateKey | .revokeKey | .updateKey | .certifyUserId | .sign | .inlineSign
  | .encrypt | .decrypt => true
  | _ => false

/-- The option for the earliest time of signatures. -/
def notBeforeOption? : Operation → Option String
  | .verify | .inlineVerify => some "--not-before"
  | .decrypt => some "--verify-not-before"
  | _ => none

/-- The option for the latest time of signatures. -/
def notAfterOption? : Operation → Option String
  | .verify | .inlineVerify => some "--not-after"
  | .decrypt => some "--verify-not-after"
  | _ => none

/-- A list of one item if the condition holds, and else of none. -/
def only {α : Type} (condition : Bool) (item : α) : List α :=
  if condition then [item] else []

/-- An option with the word for a value. -/
def keyword {α : Type} [Keyword α] (name : String) (value : α) : Piece :=
  .option name (Keyword.word value)

/-- What a setting contributes to the command line of an operation.  A setting
that the operation does not have contributes nothing. -/
def pieces (operation : Operation) : Setting → List Piece
  | .noArmor => only operation.hasArmor (.word "--no-armor")
  | .signingOnly =>
      only (operation = .generateKey || operation = .updateKey)
        (.word "--signing-only")
  | .noNewMechanisms => only (operation = .updateKey) (.word "--no-new-mechanisms")
  | .noRequireSelfSig =>
      only (operation = .certifyUserId) (.word "--no-require-self-sig")
  | .addrSpecOnly => only (operation = .validateUserId) (.word "--addr-spec-only")
  | .userId text =>
      match operation with
      | .generateKey => [.word text]
      | .certifyUserId => [.word "--userid", .word text]
      | .validateUserId => [.heldFirst text]
      | _ => []
  | .profile name =>
      only (operation = .generateKey || operation = .encrypt)
        (.option "--profile" name)
  | .signAs mode => only (operation = .sign) (keyword "--as" mode)
  | .inlineSignAs mode => only (operation = .inlineSign) (keyword "--as" mode)
  | .encryptAs mode => only (operation = .encrypt) (keyword "--as" mode)
  | .encryptFor purpose => only (operation = .encrypt) (keyword "--for" purpose)
  | .label label => only (operation = .armor) (keyword "--label" label)
  | .notBefore bound =>
      operation.notBeforeOption?.toList.map (.option · bound.render)
  | .notAfter bound =>
      operation.notAfterOption?.toList.map (.option · bound.render)
  | .validateAt bound =>
      only (operation = .validateUserId) (.option "--validate-at" bound.render)
  | .keyPassword secret =>
      only operation.hasKeyPassword
        (.secretOption "--with-key-password" .keyPassword secret)
  | .oldKeyPassword secret =>
      only (operation = .changeKeyPassword)
        (.secretOption "--old-key-password" .keyPassword secret)
  | .newKeyPassword secret =>
      only (operation = .changeKeyPassword)
        (.secretOption "--new-key-password" .keyPassword secret)
  | .password secret =>
      only (operation = .encrypt || operation = .decrypt)
        (.secretOption "--with-password" .password secret)
  | .sessionKey key =>
      only (operation = .decrypt)
        (.secretOption "--with-session-key" .sessionKey (Text.encode key.render))
  | .key secret =>
      match operation with
      | .sign | .inlineSign | .decrypt => [.secretWord .key secret]
      | .certifyUserId => [.secretHeld .key secret]
      | _ => []
  | .cert secret =>
      match operation with
      | .mergeCerts | .inlineVerify | .encrypt => [.secretWord .cert secret]
      | .updateKey => [.word "--merge-certs", .secretWord .cert secret]
      | .validateUserId | .verify => [.secretHeld .cert secret]
      | _ => []
  | .signWith secret =>
      only (operation = .encrypt) (.secretOption "--sign-with" .signWith secret)
  | .verifyWith secret =>
      only (operation = .decrypt) (.secretOption "--verify-with" .verifyWith secret)
  | .signatures secret =>
      only (operation = .verify) (.secretHeldFirst .signature secret)

def accepts (operation : Operation) (setting : Setting) : Bool :=
  !(operation.pieces setting).isEmpty

def allPieces (operation : Operation) (settings : List Setting) : List Piece :=
  settings.flatMap operation.pieces

/-- The draft of an operation with settings, without the words held back. -/
def draft (operation : Operation) (program : String) (settings : List Setting) :
    Draft :=
  (Draft.new program operation.subcommand).addAll (operation.allPieces settings)

/-- Append the words that were held back.  Two operations need the first of
them. -/
def complete (operation : Operation) (draft : Draft) : Except Failure Draft :=
  match operation with
  | .certifyUserId => .ok (draft.append ("--" :: draft.held))
  | .validateUserId =>
      match draft.first with
      | some userId => .ok (draft.append (userId :: draft.held))
      | none =>
          .error (.new .missingArg "Missing argument: user ID to validate")
  | .verify =>
      match draft.first with
      | some signatures => .ok (draft.append (signatures :: draft.held))
      | none =>
          .error (.new .missingArg
            "Missing argument: signatures cannot be null.")
  | _ => .ok draft

/-- Whether a setting is a certificate that a message's signatures are checked
against. -/
def isVerifyWith : Setting → Bool
  | .verifyWith _ => true
  | _ => false

/-- The options for side channels of an operation, in the order in which the
channels are reserved. -/
def channelOptions (operation : Operation) (settings : List Setting) :
    List (String × Channel) :=
  match operation with
  | .sign => [("--micalg-out", .micAlg)]
  | .inlineDetach => [("--signatures-out", .signatures)]
  | .inlineVerify => [("--verifications-out", .verifications)]
  | .encrypt => [("--session-key-out", .sessionKey)]
  | .decrypt =>
      ("--session-key-out", .sessionKey) ::
        (if settings.any isVerifyWith then [("--verify-out", .verifications)] else [])
  | _ => []

/-- Whether an operation reads standard input. -/
def hasInput : Operation → Bool
  | .generateKey => false
  | _ => true

/-- Whether the standard output of the backend is the output of the operation.
Otherwise it is a report that the operation reads. -/
def isStreamed : Operation → Bool
  | .verify | .validateUserId => false
  | _ => true

end Operation

/-- What decrypting a message yields besides its contents. -/
structure Decryption where
  /-- The session key of the message. -/
  sessionKey : Option SessionKey
  /-- The signatures of the message that were verified. -/
  verifications : List Verification
  deriving DecidableEq, Repr

namespace Operation

/-- What an operation yields besides its output. -/
abbrev Result : Operation → Type
  | .validateUserId => Bool
  | .sign => MicAlg
  | .inlineDetach => Bytes
  | .verify | .inlineVerify => List Verification
  | .encrypt => Option SessionKey
  | .decrypt => Decryption
  | _ => Unit

def readSessionKey : ChannelReader (Option SessionKey) := do
  match ← ChannelReader.text .sessionKey with
  | none => return none
  | some text => return some (← liftExcept (SessionKey.parse text))
where
  /-- Fail as a pure computation fails. -/
  liftExcept {α : Type} : Except Failure α → ChannelReader α
    | .ok value => pure value
    | .error failure => throw failure

def readVerifications : ChannelReader (List Verification) := do
  match ← ChannelReader.text .verifications with
  | none => return []
  | some text => readSessionKey.liftExcept (Verification.parseAll text)

/-- Read a report of verifications from the standard output. -/
def verificationsOf (output : Bytes) : Except Failure (List Verification) :=
  match Text.decode output with
  | .error error =>
      .error (.because .badData "Backend wrote non UTF-8 verifications" error.message)
  | .ok text => Verification.parseAll text

/-- What an operation yields after a successful run with the given output. -/
def finish (operation : Operation) (output : Bytes) :
    ChannelReader operation.Result :=
  match operation with
  | .validateUserId => return true
  | .sign => do
      let text ← ChannelReader.text .micAlg
      return (text.map MicAlg.ofText).getD MicAlg.empty
  | .inlineDetach => do
      match ← ChannelReader.consume .signatures with
      | some signatures => return signatures
      | none =>
          throw (.new .generic "Backend did not write the detached signatures")
  | .verify => readSessionKey.liftExcept (verificationsOf output)
  | .inlineVerify => readVerifications
  | .encrypt => readSessionKey
  | .decrypt => do
      let sessionKey ← readSessionKey
      let verifications ← readVerifications
      return ⟨sessionKey, verifications⟩
  | .generateKey | .extractCert | .revokeKey | .changeKeyPassword | .updateKey
  | .mergeCerts | .certifyUserId | .inlineSign | .armor | .dearmor => return ()

/-- What an operation yields after a failed run.  That no certificate has the
user ID is an answer of the validation and not a failure. -/
def recover (operation : Operation) (failure : Failure) :
    Except Failure operation.Result :=
  match operation with
  | .validateUserId =>
      if failure.kind = .certUserIdNoMatch then .ok false else .error failure
  | _ => .error failure

end Operation
end StatelessPgp
