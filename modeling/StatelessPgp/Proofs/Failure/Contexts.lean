import Mathlib.Data.List.Induction
import StatelessPgp.Failure.Sourced

/-!
# Messages over failures

A message that is put over a failure makes it the source of a new failure.  The new one has the
same kind and exit status, and the sources below it are the old failure and the sources of that.
But it does not say any more which status a backend reported, or that the backend could not be
run to its end: this is found by going down the sources only.
-/

namespace StatelessPgp

namespace Failure

theorem contexts_concat (failure : Failure) (messages : List String) (message : String) :
    failure.contexts (messages ++ [message]) = (failure.contexts messages).context message := by
  rw [contexts, List.foldl_append]
  rfl

theorem kind_contexts (failure : Failure) (messages : List String) :
    (failure.contexts messages).kind = failure.kind := by
  induction messages using List.reverseRecOn with
  | nil => rfl
  | append_singleton messages message hypothesis => rwa [contexts_concat]

theorem lines_contexts (failure : Failure) (messages : List String) :
    (failure.contexts messages).lines = messages.reverse ++ failure.lines := by
  induction messages using List.reverseRecOn with
  | nil => rfl
  | append_singleton messages message hypothesis =>
      rw [contexts_concat, List.reverse_concat, List.cons_append, ← hypothesis]
      rfl

theorem message_contexts (failure : Failure) (messages : List String) :
    (failure.contexts messages).message = messages.getLast?.getD failure.message := by
  cases messages using List.reverseRecOn with
  | nil => rfl
  | append_singleton messages message =>
      rw [contexts_concat, List.getLast?_concat]
      rfl

-- Only the layer of a failure is asked for these two, and from the first message on that layer is
-- an operation of which no backend is said to have reported it.
theorem backendStatus_contexts (failure : Failure) (messages : List String) :
    (failure.contexts messages).backendStatus =
      if messages = [] then failure.backendStatus else none := by
  cases messages using List.reverseRecOn with
  | nil => rfl
  | append_singleton messages message =>
      rw [contexts_concat, if_neg (List.concat_ne_nil _ _)]
      rfl

theorem isTransport_contexts (failure : Failure) (messages : List String) :
    (failure.contexts messages).isTransport =
      if messages = [] then failure.isTransport else false := by
  cases messages using List.reverseRecOn with
  | nil => rfl
  | append_singleton messages message =>
      rw [contexts_concat, if_neg (List.concat_ne_nil _ _)]
      rfl

end Failure

namespace Sourced

theorem contexts_concat (sourced : Sourced) (messages : List String) (message : String) :
    sourced.contexts (messages ++ [message]) = (sourced.contexts messages).context message := by
  rw [contexts, List.foldl_append]
  rfl

/-- Going from source to source yields the texts of a failure. -/
theorem texts_origin (sourced : Sourced) : sourced.origin.texts = sourced.failure.lines :=
  rfl

theorem failure_contexts (sourced : Sourced) (messages : List String) :
    (sourced.contexts messages).failure = sourced.failure.contexts messages := by
  induction messages using List.reverseRecOn with
  | nil => rfl
  | append_singleton messages message hypothesis =>
      rw [contexts_concat, Failure.contexts_concat, ← hypothesis]
      rfl

/-- Below as many messages as were put over it, a failure is found as it was. -/
theorem descend_contexts (sourced : Sourced) (messages : List String) :
    (sourced.contexts messages).origin.descend messages.length = sourced.origin := by
  induction messages using List.reverseRecOn with
  | nil => rfl
  | append_singleton messages message hypothesis =>
      rw [contexts_concat, List.length_append]
      exact hypothesis

end Sourced

/-- Whatever messages are put over a failure, its kind and exit status stay, the message is the
last one, and on the way down the sources come the earlier ones, from the latest to the first, and
then the failure as it was with its own sources.  But from the first message on, the failure tells
neither the status that a backend reported nor that the backend could not be run to its end. -/
theorem messages_keep_kind_and_sources_only (sourced : Sourced) (messages : List String) :
    let before := sourced.failure
    let after := before.contexts messages
    after.kind = before.kind ∧ after.status = before.status ∧
      after.message = messages.getLast?.getD before.message ∧
      (sourced.contexts messages).failure = after ∧
      (sourced.contexts messages).origin.texts = messages.reverse ++ sourced.origin.texts ∧
      (sourced.contexts messages).origin.descend messages.length = sourced.origin ∧
      after.backendStatus = (if messages = [] then before.backendStatus else none) ∧
      after.isTransport = (if messages = [] then before.isTransport else false) := by
  intro before after
  have kind : after.kind = before.kind := before.kind_contexts messages
  refine ⟨kind, congrArg Kind.status kind, before.message_contexts messages,
    sourced.failure_contexts messages, ?_, sourced.descend_contexts messages,
    before.backendStatus_contexts messages, before.isTransport_contexts messages⟩
  rw [Sourced.texts_origin, Sourced.texts_origin, Sourced.failure_contexts]
  exact before.lines_contexts messages

/-- With one message over it, a backend's unknown status is lost, and so is the fact that a backend
could not be started. -/
theorem message_hides_status_and_transport :
    let reported : Sourced := ⟨.unspecified 42 "weird", .nothing⟩
    let unstarted : Sourced := ⟨.spawn "/sop" .denied, .foreign SystemError.denied.message .nothing⟩
    reported.failure.backendStatus = some 42 ∧
      (reported.failure.contexts ["cannot sign"]).backendStatus = none ∧
      unstarted.failure.isTransport = true ∧
      (unstarted.failure.contexts ["cannot sign"]).isTransport = false := by
  intro reported unstarted
  obtain ⟨-, -, -, -, -, -, status, -⟩ :=
    messages_keep_kind_and_sources_only reported ["cannot sign"]
  obtain ⟨-, -, -, -, -, -, -, transport⟩ :=
    messages_keep_kind_and_sources_only unstarted ["cannot sign"]
  exact ⟨rfl, status, rfl, transport⟩

end StatelessPgp
