import StatelessPgp.Operation.Basic

/-!
# Reading one channel after another

What an operation reads from its side channels, in a form that can be taken one channel
at a time.
-/

namespace StatelessPgp

/-- What is still to be read until there is a result. -/
inductive Retrieval (α : Type) where
  | done (result : Except Failure α)
  | consume (channel : Channel) (next : Option Bytes → Retrieval α)

namespace Retrieval

variable {α β : Type}

def bind (retrieval : Retrieval α) (more : α → Retrieval β) : Retrieval β :=
  match retrieval with
  | .done (.ok value) => more value
  | .done (.error failure) => .done (.error failure)
  | .consume channel next => .consume channel fun data => (next data).bind more

def text (channel : Channel) : Retrieval (Option String) :=
  .consume channel fun
    | none => .done (.ok none)
    | some data =>
        match Text.decode data with
        | .ok text => .done (.ok (Text.stripped? text))
        | .error error =>
            .done (.error (.because .badData
              ("Backend wrote non UTF-8 data to " ++ channel.fileName) error.message))

def readSessionKey : Retrieval (Option SessionKey) :=
  (text .sessionKey).bind fun
    | none => .done (.ok none)
    | some text => .done ((SessionKey.parse text).map some)

def readVerifications : Retrieval (List Verification) :=
  (text .verifications).bind fun
    | none => .done (.ok [])
    | some text => .done (Verification.parseAll text)

end Retrieval

/-- What an operation reads after a successful run with the given output. -/
def Operation.retrieval (operation : Operation) (output : Bytes) :
    Retrieval operation.Result :=
  match operation with
  | .validateUserId => .done (.ok true)
  | .sign =>
      (Retrieval.text .micAlg).bind fun text =>
        .done (.ok ((text.map MicAlg.ofText).getD MicAlg.empty))
  | .inlineDetach =>
      .consume .signatures fun
        | some signatures => .done (.ok signatures)
        | none =>
            .done (.error (.new .generic "Backend did not write the detached signatures"))
  | .verify => .done (Operation.verificationsOf output)
  | .inlineVerify => .readVerifications
  | .encrypt => .readSessionKey
  | .decrypt =>
      Retrieval.readSessionKey.bind fun sessionKey =>
        Retrieval.readVerifications.bind fun verifications =>
          .done (.ok ⟨sessionKey, verifications⟩)
  | .generateKey | .extractCert | .revokeKey | .changeKeyPassword | .updateKey
  | .mergeCerts | .certifyUserId | .inlineSign | .armor | .dearmor => .done (.ok ())

end StatelessPgp
