import StatelessPgp.Proofs.Operation.Preparation
import StatelessPgp.Proofs.Secret.Names

/-!
# Allocation of secrets

Each setting that is given a secret binds it once, and the draft refers to the new
binding by the word that the setting contributes.  Bindings are never taken back,
so that all of them are found in the frozen command line, numbered as they came.
-/

namespace StatelessPgp

namespace Draft

theorem allocated_add {draft : Draft} (allocated : draft.secrets.Allocated)
    (piece : Piece) : (draft.add piece).secrets.Allocated := by
  rw [secrets_add]
  cases piece.secret? with
  | none => exact allocated
  | some secret => exact allocated.next secret.1 secret.2

theorem allocated_addAll {draft : Draft} (allocated : draft.secrets.Allocated)
    (pieces : List Piece) : (draft.addAll pieces).secrets.Allocated := by
  induction pieces generalizing draft with
  | nil => exact allocated
  | cons piece rest hypothesis => exact hypothesis (allocated_add allocated piece)

theorem secrets_prefix_add (draft : Draft) (piece : Piece) :
    draft.secrets <+: (draft.add piece).secrets := by
  rw [secrets_add]
  cases piece.secret? with
  | none => exact List.prefix_rfl
  | some secret => exact List.prefix_append _ _

theorem secrets_prefix_addAll (draft : Draft) (pieces : List Piece) :
    draft.secrets <+: (draft.addAll pieces).secrets := by
  induction pieces generalizing draft with
  | nil => exact List.prefix_rfl
  | cons piece rest hypothesis =>
      exact (draft.secrets_prefix_add piece).trans (hypothesis (draft.add piece))

theorem addAll_words (draft : Draft) (texts : List String) :
    draft.addAll (texts.map .word) = draft.append texts := by
  induction texts generalizing draft with
  | nil => simp [append]
  | cons text rest hypothesis =>
      rw [List.map_cons, addAll_cons, hypothesis]
      simp [add, append, word]

/-- A draft comes to refer to a variable: by a word, by the value of an option, or
by a word that it holds back. -/
inductive Refers (earlier later : Draft) (reference : String) : Prop where
  | word (texts : List String)
      (words : later.words = earlier.words ++ texts ++ [reference])
  | option (texts : List String) (name : String)
      (words : later.words = earlier.words ++ texts ++ [name ++ "=" ++ reference])
  | first (first : later.first = some reference) (words : later.words = earlier.words)
      (held : later.held = earlier.held)
  | held (held : later.held = earlier.held ++ [reference])

/-- A piece with a secret makes the draft refer to the binding of the secret. -/
theorem refers_add (draft : Draft) {piece : Piece} {category : Category}
    {value : Bytes} (secret : piece.secret? = some (category, value)) :
    Refers draft (draft.add piece) (draft.secrets.next category value).reference := by
  cases piece with
  | word text => cases secret
  | option name value => cases secret
  | heldFirst text => cases secret
  | secretWord category value =>
      cases secret
      exact .word [] (by rw [List.append_nil]; rfl)
  | secretOption name category value =>
      cases secret
      exact .option [] name (by rw [List.append_nil]; rfl)
  | secretHeldFirst category value =>
      cases secret
      exact .first rfl rfl rfl
  | secretHeld category value =>
      cases secret
      exact .held rfl

end Draft

namespace Setting

/-- The secret that a setting is given. -/
def secret? : Setting → Option Bytes
  | .keyPassword secret | .oldKeyPassword secret | .newKeyPassword secret
  | .password secret | .key secret | .cert secret | .signWith secret
  | .verifyWith secret | .signatures secret => some secret
  | .sessionKey given => some (Text.encode given.render)
  | .noArmor | .signingOnly | .noNewMechanisms | .noRequireSelfSig | .addrSpecOnly
  | .userId _ | .profile _ | .signAs _ | .inlineSignAs _ | .encryptAs _
  | .encryptFor _ | .label _ | .notBefore _ | .notAfter _ | .validateAt _ => none

end Setting

namespace Operation

theorem only_of_ne_nil {condition : Bool} {piece : Piece}
    (accepted : (!(only condition piece).isEmpty) = true) :
    only condition piece = [piece] := by
  cases condition with
  | false => simp [only] at accepted
  | true => rfl

/-- A setting with a secret contributes one piece with just that secret, or a word
that refers to it after words without any. -/
theorem pieces_of_secret {operation : Operation} {setting : Setting} {value : Bytes}
    (accepted : operation.accepts setting = true)
    (secret : setting.secret? = some value) :
    ∃ (texts : List String) (piece : Piece) (category : Category),
      operation.pieces setting = texts.map .word ++ [piece] ∧
      piece.secret? = some (category, value) ∧
      (texts = [] ∨ piece = .secretWord category value) := by
  unfold accepts at accepted
  cases setting with
  | keyPassword | oldKeyPassword | newKeyPassword | password | sessionKey | signWith
  | verifyWith | signatures =>
      cases secret
      exact ⟨[], _, _, only_of_ne_nil accepted, rfl, .inl rfl⟩
  | key =>
      cases secret
      cases operation <;> first
        | exact ⟨[], _, _, rfl, rfl, .inl rfl⟩
        | simp [pieces] at accepted
  | cert =>
      cases secret
      cases operation <;> first
        | exact ⟨[], _, _, rfl, rfl, .inl rfl⟩
        | exact ⟨["--merge-certs"], _, _, rfl, rfl, .inr rfl⟩
        | simp [pieces] at accepted
  | _ => cases secret

theorem draft_append (operation : Operation) (program : String)
    (first second : List Setting) :
    operation.draft program (first ++ second) =
      (operation.draft program first).addAll (operation.allPieces second) := by
  simp [draft, allPieces, Draft.addAll_append]

theorem draft_allocated (operation : Operation) (program : String)
    (settings : List Setting) : (operation.draft program settings).secrets.Allocated :=
  Draft.allocated_addAll .none _

/-- A setting with a secret leaves a binding that carries the secret, and the draft
refers to it. -/
theorem draft_binds {operation : Operation} {setting : Setting} {value : Bytes}
    (accepted : operation.accepts setting = true)
    (secret : setting.secret? = some value) (program : String)
    (before after : List Setting) :
    ∃ binding ∈ (operation.draft program (before ++ setting :: after)).secrets,
      binding.value = value ∧
      Draft.Refers (operation.draft program before)
        (operation.draft program (before ++ [setting])) binding.reference := by
  obtain ⟨texts, piece, category, contributed, held, shape⟩ :=
    pieces_of_secret accepted secret
  have latest : operation.draft program (before ++ [setting]) =
      ((operation.draft program before).append texts).add piece := by
    rw [draft_append]
    simp [allPieces, contributed, Draft.addAll_append, Draft.addAll_words]
  have later : operation.draft program (before ++ setting :: after) =
      (operation.draft program (before ++ [setting])).addAll
        (operation.allPieces after) := by
    rw [← draft_append]
    simp
  let binding := (operation.draft program before).secrets.next category value
  have bound : binding ∈ (operation.draft program (before ++ [setting])).secrets := by
    rw [latest, Draft.secrets_add, held]
    exact List.mem_append_right _ (List.mem_singleton.2 rfl)
  refine ⟨binding, ?_, rfl, ?_⟩
  · rw [later]
    exact (Draft.secrets_prefix_addAll _ _).mem bound
  · rw [latest]
    rcases shape with rfl | rfl
    · have unchanged : (operation.draft program before).append [] =
          operation.draft program before := by
        simp [Draft.append]
      rw [unchanged]
      exact Draft.refers_add _ held
    · exact .word texts rfl

end Operation
end StatelessPgp
