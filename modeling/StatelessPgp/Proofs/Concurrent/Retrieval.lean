import StatelessPgp.Concurrent.Retrieval
import StatelessPgp.Proofs.Operation.Reading

/-!
# Reading all channels at once

What an operation reads channel by channel is, taken at once, what the operation computes.
-/

namespace StatelessPgp

namespace Retrieval

variable {α β : Type}

/-- All that is to be read, read at once. -/
def toReader : Retrieval α → ChannelReader α
  | .done result => Operation.readSessionKey.liftExcept result
  | .consume channel next => ChannelReader.consume channel >>= fun data => (next data).toReader

theorem toReader_bind (retrieval : Retrieval α) (more : α → Retrieval β) :
    (retrieval.bind more).toReader =
      retrieval.toReader >>= fun value => (more value).toReader := by
  induction retrieval with
  | done result =>
      cases result with
      | ok value => exact (pure_bind value fun value => (more value).toReader).symm
      | error failure => rfl
  | consume channel next hypothesis =>
      rw [bind, toReader, toReader, bind_assoc]
      exact bind_congr hypothesis

theorem toReader_text (channel : Channel) :
    (text channel).toReader = ChannelReader.text channel := by
  rw [text, toReader, ChannelReader.text]
  refine bind_congr fun data => ?_
  cases data with
  | none => rfl
  | some data =>
      dsimp only
      cases Text.decode data <;> rfl

theorem toReader_readSessionKey :
    readSessionKey.toReader = Operation.readSessionKey := by
  rw [readSessionKey, toReader_bind, toReader_text, Operation.readSessionKey]
  refine bind_congr fun text => ?_
  cases text with
  | none => rfl
  | some text =>
      dsimp only
      cases SessionKey.parse text <;> rfl

theorem toReader_readVerifications :
    readVerifications.toReader = Operation.readVerifications := by
  rw [readVerifications, toReader_bind, toReader_text, Operation.readVerifications]
  refine bind_congr fun text => ?_
  cases text <;> rfl

theorem toReader_retrieval (operation : Operation) (output : Bytes) :
    (operation.retrieval output).toReader = operation.finish output := by
  cases operation with
  | sign =>
      rw [Operation.retrieval, toReader_bind, toReader_text, Operation.finish]
      rfl
  | inlineDetach =>
      rw [Operation.retrieval, toReader, Operation.finish]
      refine bind_congr fun data => ?_
      cases data <;> rfl
  | inlineVerify => exact toReader_readVerifications
  | encrypt => exact toReader_readSessionKey
  | decrypt =>
      rw [Operation.retrieval, toReader_bind, toReader_readSessionKey, Operation.finish]
      refine bind_congr fun sessionKey => ?_
      rw [toReader_bind, toReader_readVerifications]
      rfl
  | _ => rfl

end Retrieval

end StatelessPgp
