import StatelessPgp.Proofs.Operation.Preparation

/-!
# Secrets stay hidden

Blotting out the secrets commutes with drafting a command line and with making an
operation ready, and everything that can be seen of either is the same after the
secrets have been blotted out.  So two runs that differ only in their secrets look
the same at every step.  Whether an environment can carry the secrets depends on
them only through the bytes of zero.
-/

namespace StatelessPgp

/-- The setting with its secret blotted out. -/
def Setting.masked : Setting → Setting
  | .keyPassword _ => .keyPassword []
  | .oldKeyPassword _ => .oldKeyPassword []
  | .newKeyPassword _ => .newKeyPassword []
  | .password _ => .password []
  | .sessionKey _ => .sessionKey ⟨0, []⟩
  | .key _ => .key []
  | .cert _ => .cert []
  | .signWith _ => .signWith []
  | .verifyWith _ => .verifyWith []
  | .signatures _ => .signatures []
  | setting => setting

/-- The piece with its secret blotted out. -/
def Piece.masked : Piece → Piece
  | .secretWord category _ => .secretWord category []
  | .secretOption name category _ => .secretOption name category []
  | .secretHeldFirst category _ => .secretHeldFirst category []
  | .secretHeld category _ => .secretHeld category []
  | piece => piece

namespace Binding

/-- The binding with its secret blotted out. -/
def masked (binding : Binding) : Binding :=
  { binding with value := [] }

@[simp] theorem name_masked (binding : Binding) : binding.masked.name = binding.name :=
  rfl

@[simp] theorem redacted_masked (binding : Binding) :
    binding.masked.redacted = binding.redacted := by
  unfold redacted
  rw [name_masked]

end Binding

namespace Secrets

/-- The bindings with their secrets blotted out. -/
def masked (secrets : Secrets) : Secrets :=
  secrets.map Binding.masked

@[simp] theorem count_masked (secrets : Secrets) (category : Category) :
    secrets.masked.count category = secrets.count category := by
  rw [masked, count, List.countP_map]
  rfl

@[simp] theorem redacted_masked (secrets : Secrets) :
    secrets.masked.redacted = secrets.redacted := by
  have same : secrets.masked.map Binding.redacted = secrets.map Binding.redacted := by
    simp [masked]
  unfold redacted
  rw [same]

@[simp] theorem allocation_masked (secrets : Secrets) :
    secrets.masked.allocation = secrets.allocation := by
  unfold allocation
  simp only [count_masked, redacted_masked]

@[simp] theorem names_masked (secrets : Secrets) :
    secrets.masked.map Binding.name = secrets.map Binding.name := by
  simp [masked]

theorem masked_next (secrets : Secrets) (category : Category) (value : Bytes) :
    (secrets.next category value).masked = secrets.masked.next category [] := by
  rw [next, next, count_masked]
  rfl

theorem masked_append_next (secrets : Secrets) (category : Category) (value : Bytes) :
    masked (secrets ++ [secrets.next category value]) =
      secrets.masked ++ [secrets.masked.next category []] := by
  rw [masked, List.map_append, List.map_singleton, masked_next, ← masked]

/-- Whether secrets can be carried is found from their names and from which of them
can. -/
theorem validate_eq (secrets : Secrets) :
    secrets.validate =
      match (secrets.map fun binding => (binding.name, binding.isPortable)).find?
          fun entry => !entry.2 with
      | none => .ok ()
      | some entry =>
          .error (.new .badData
            ("Secret " ++ entry.1 ++ " contains a NUL byte and cannot be passed " ++
              "through the environment; pass armored data instead")) := by
  have refused : ((fun entry : String × Bool => !entry.2) ∘
      fun binding : Binding => (binding.name, binding.isPortable)) =
        fun binding => !binding.isPortable := rfl
  rw [List.find?_map, validate, refused]
  cases secrets.find? fun binding => !binding.isPortable <;> rfl

end Secrets

namespace Draft

/-- The draft with its secrets blotted out. -/
def masked (draft : Draft) : Draft :=
  { draft with secrets := draft.secrets.masked }

@[simp] theorem vector_masked (draft : Draft) : draft.masked.vector = draft.vector := rfl

@[simp] theorem secrets_masked (draft : Draft) :
    draft.masked.secrets = draft.secrets.masked := rfl

@[simp] theorem redacted_masked (draft : Draft) :
    draft.masked.redacted = draft.redacted := by
  unfold redacted
  rw [vector_masked, secrets_masked, Secrets.allocation_masked]

@[simp] theorem nextReference_masked (category : Category) (draft : Draft) :
    draft.masked.nextReference category = draft.nextReference category := by
  rw [nextReference, nextReference, masked, Secrets.next, Secrets.next,
    Secrets.count_masked]

theorem masked_bind (category : Category) (value : Bytes) (draft : Draft) :
    (draft.bind category value).masked = draft.masked.bind category [] := by
  rw [bind, bind, masked, masked, Secrets.masked_append_next]

theorem masked_add (draft : Draft) (piece : Piece) :
    (draft.add piece).masked = draft.masked.add piece.masked := by
  cases piece with
  | word | option | heldFirst => rfl
  | secretWord category value | secretOption name category value
  | secretHeldFirst category value | secretHeld category value =>
      simp only [add, Piece.masked, nextReference_masked, ← draft.masked_bind category value]
      rfl

theorem masked_addAll (draft : Draft) (pieces : List Piece) :
    (draft.addAll pieces).masked = draft.masked.addAll (pieces.map Piece.masked) := by
  induction pieces generalizing draft with
  | nil => rfl
  | cons piece rest hypothesis =>
      rw [addAll_cons, hypothesis, masked_add, List.map_cons, addAll_cons]

end Draft

namespace Operation

theorem map_masked_only (condition : Bool) (piece : Piece) :
    (only condition piece).map Piece.masked = only condition piece.masked := by
  cases condition <;> rfl

/-- What a setting contributes looks the same whatever its secret is. -/
theorem pieces_masked (operation : Operation) (setting : Setting) :
    (operation.pieces setting.masked).map Piece.masked =
      (operation.pieces setting).map Piece.masked := by
  cases setting with
  | keyPassword | oldKeyPassword | newKeyPassword | password | sessionKey | signWith
  | verifyWith | signatures => simp [Setting.masked, pieces, map_masked_only, Piece.masked]
  | key | cert => cases operation <;> rfl
  | _ => rfl

theorem masked_draft (operation : Operation) (program : String)
    (settings : List Setting) :
    (operation.draft program settings).masked =
      (Draft.new program operation.subcommand).addAll
        ((settings.map Setting.masked).flatMap fun setting =>
          (operation.pieces setting).map Piece.masked) := by
  rw [draft, Draft.masked_addAll, allPieces, List.map_flatMap, List.flatMap_map]
  simp only [pieces_masked]
  rfl

theorem channelOptions_masked (operation : Operation) (settings : List Setting) :
    operation.channelOptions (settings.map Setting.masked) =
      operation.channelOptions settings := by
  have blind (setting : Setting) : isVerifyWith setting.masked = isVerifyWith setting := by
    cases setting <;> rfl
  simp [channelOptions, List.any_map, Function.comp_def, blind]

theorem complete_masked (operation : Operation) (draft : Draft) :
    operation.complete draft.masked = (operation.complete draft).map Draft.masked := by
  cases operation with
  | validateUserId | verify =>
      have first : draft.masked.first = draft.first := rfl
      unfold complete
      rw [first]
      cases draft.first <;> rfl
  | _ => rfl

theorem reserveAll_masked (host : Host) (draft : Draft) (channels : Channels)
    (files : FileTree) (options : List (String × Channel)) :
    reserveAll host draft.masked channels files options =
      ((reserveAll host draft channels files options).1.map Draft.masked,
        (reserveAll host draft channels files options).2) := by
  induction options generalizing draft channels files with
  | nil => rfl
  | cons option rest hypothesis =>
      obtain ⟨name, channel⟩ := option
      unfold reserveAll
      split
      · rfl
      · next path channels files _ =>
          exact hypothesis (draft.option name path.display) channels files

end Operation

/-- Two results that look the same agree in their failures, and else in what can be
seen of their values. -/
private theorem map_eq_map {Error Value View : Type} {view : Value → View}
    {first second : Except Error Value} (same : first.map view = second.map view) :
    (∃ error, first = .error error ∧ second = .error error) ∨
      ∃ left right, first = .ok left ∧ second = .ok right ∧ view left = view right := by
  cases first with
  | error error =>
      cases second with
      | error other => cases same; exact .inl ⟨error, rfl, rfl⟩
      | ok right => cases same
  | ok left =>
      cases second with
      | error other => cases same
      | ok right => exact .inr ⟨left, right, rfl, rfl, Except.ok.inj same⟩

namespace Ready

variable {operation : Operation}

/-- Two operations that are ready look the same, in their command lines and in
their descriptions, and they are judged alike if the environment can carry the same
ones of their secrets. -/
structure Alike (first second : Ready operation) : Prop where
  vector : first.command.vector = second.command.vector
  secretNames : first.command.secretNames = second.command.secretNames
  commandText : first.command.redacted = second.command.redacted
  readyText : ∀ showDirectory,
    first.description showDirectory = second.description showDirectory
  validate : first.command.secrets.map Binding.isPortable =
    second.command.secrets.map Binding.isPortable →
      first.command.validate = second.command.validate

/-- Two attempts to make an operation ready fail for the same reason, or both succeed
and look the same. -/
inductive AlikeAttempts :
    Except Failure (Ready operation) → Except Failure (Ready operation) → Prop where
  | failed (failure : Failure) : AlikeAttempts (.error failure) (.error failure)
  | ready {first second : Ready operation} (alike : first.Alike second) :
      AlikeAttempts (.ok first) (.ok second)

theorem vector_freeze_congr {first second : Draft}
    (same : first.masked = second.masked) :
    first.freeze.vector = second.freeze.vector := by
  change first.masked.vector = second.masked.vector
  rw [same]

theorem secretNames_freeze_congr {first second : Draft}
    (same : first.masked = second.masked) :
    first.freeze.secretNames = second.freeze.secretNames :=
  calc first.secrets.map Binding.name
      = first.masked.secrets.map Binding.name := (Secrets.names_masked _).symm
    _ = second.masked.secrets.map Binding.name := by rw [same]
    _ = second.secrets.map Binding.name := Secrets.names_masked _

theorem redacted_freeze_congr {first second : Draft}
    (same : first.masked = second.masked) :
    first.freeze.redacted = second.freeze.redacted := by
  have vectors := vector_freeze_congr same
  have secrets : first.freeze.secrets.redacted = second.freeze.secrets.redacted :=
    calc first.secrets.redacted
        = first.masked.secrets.redacted := (Secrets.redacted_masked _).symm
      _ = second.masked.secrets.redacted := by rw [same]
      _ = second.secrets.redacted := Secrets.redacted_masked _
  unfold Command.redacted
  rw [vectors, secrets]

theorem validate_freeze_congr {first second : Draft}
    (same : first.masked = second.masked)
    (portable : first.secrets.map Binding.isPortable =
      second.secrets.map Binding.isPortable) :
    first.freeze.validate = second.freeze.validate := by
  have names : first.secrets.map Binding.name = second.secrets.map Binding.name :=
    secretNames_freeze_congr same
  have pairs : (first.secrets.map fun binding => (binding.name, binding.isPortable)) =
      second.secrets.map fun binding => (binding.name, binding.isPortable) := by
    rw [← List.zip_map', ← List.zip_map', names, portable]
  change first.secrets.validate = second.secrets.validate
  rw [Secrets.validate_eq, Secrets.validate_eq, pairs]

/-- Drafts that look the same without their secrets give operations that look the
same. -/
theorem alike_of_masked {config : Config} {first second : Draft}
    (same : first.masked = second.masked) {firstInput secondInput : Option Bytes}
    (sameInput : firstInput.isSome = secondInput.isSome) (channels : Channels) :
    (⟨config, first.freeze, firstInput, channels⟩ : Ready operation).Alike
      ⟨config, second.freeze, secondInput, channels⟩ := by
  have text := redacted_freeze_congr same
  refine ⟨vector_freeze_congr same, secretNames_freeze_congr same, text,
    fun showDirectory => ?_, validate_freeze_congr same⟩
  unfold description redacted
  rw [text, sameInput]

/-- Settings that look the same without their secrets make an operation ready in the
same way. -/
theorem prepare_alike {host : Host} {config : Config} {first second : List Setting}
    (same : first.map Setting.masked = second.map Setting.masked)
    (firstInput secondInput : Bytes) (files : FileTree) :
    AlikeAttempts (operation.prepare host config first firstInput files).1
        (operation.prepare host config second secondInput files).1 ∧
      (operation.prepare host config first firstInput files).2 =
        (operation.prepare host config second secondInput files).2 := by
  have options : operation.channelOptions first = operation.channelOptions second := by
    rw [← Operation.channelOptions_masked, same, Operation.channelOptions_masked]
  have completed :
      (operation.complete (operation.draft config.program first)).map Draft.masked =
        (operation.complete (operation.draft config.program second)).map
          Draft.masked := by
    rw [← Operation.complete_masked, ← Operation.complete_masked,
      Operation.masked_draft, Operation.masked_draft, same]
  unfold Operation.prepare
  rw [options]
  rcases map_eq_map completed with
    ⟨failure, firstFails, secondFails⟩ | ⟨draft, other, firstDraft, secondDraft, drafts⟩
  · rw [firstFails, secondFails]
    exact ⟨.failed failure, rfl⟩
  · rw [firstDraft, secondDraft]
    dsimp only
    have masked := Operation.reserveAll_masked host other
      (Channels.new config.scratchParent) files (operation.channelOptions second)
    rw [← drafts, Operation.reserveAll_masked] at masked
    have reserved := congrArg Prod.fst masked
    have rest := congrArg Prod.snd masked
    generalize Operation.reserveAll host draft _ _ _ = firstOutcome at reserved rest ⊢
    generalize Operation.reserveAll host other _ _ _ = secondOutcome at reserved rest ⊢
    obtain ⟨firstResult, channels, reservedFiles⟩ := firstOutcome
    obtain ⟨secondResult, _, _⟩ := secondOutcome
    cases rest
    rcases map_eq_map reserved with
      ⟨error, rfl, rfl⟩ | ⟨frozen, otherFrozen, rfl, rfl, frozenSame⟩
    · exact ⟨.failed _, rfl⟩
    · refine ⟨.ready (alike_of_masked frozenSame ?_ channels), rfl⟩
      cases operation.hasInput <;> rfl

end Ready

/-- Two runs of a builder that differ only in their secrets look the same: the
command line and its description after every call, and then what is made ready and
all its descriptions. -/
theorem secrets_stay_hidden (operation : Operation) (host : Host) (config : Config)
    {first second : List Setting}
    (same : first.map Setting.masked = second.map Setting.masked)
    (firstInput secondInput : Bytes) (files : FileTree) :
    (∀ count,
      (operation.draft config.program (first.take count)).vector =
          (operation.draft config.program (second.take count)).vector ∧
        (operation.draft config.program (first.take count)).redacted =
          (operation.draft config.program (second.take count)).redacted) ∧
    Ready.AlikeAttempts
      (operation.prepare host config first firstInput files).1
      (operation.prepare host config second secondInput files).1 ∧
    (operation.prepare host config first firstInput files).2 =
      (operation.prepare host config second secondInput files).2 := by
  constructor
  · intro count
    have drafts : (operation.draft config.program (first.take count)).masked =
        (operation.draft config.program (second.take count)).masked := by
      rw [Operation.masked_draft, Operation.masked_draft, List.map_take, List.map_take,
        same]
    constructor
    · rw [← Draft.vector_masked, drafts, Draft.vector_masked]
    · rw [← Draft.redacted_masked, drafts, Draft.redacted_masked]
  · exact Ready.prepare_alike same firstInput secondInput files

/-- Secrets of other lengths, one of them with a byte of zero, and session keys of
other algorithms. -/
theorem decryption_secrets_stay_hidden :
    let first := [Setting.password [104, 0], .sessionKey ⟨9, [1, 2]⟩, .verifyWith [5]]
    let second := [Setting.password [], .sessionKey ⟨1, []⟩, .verifyWith [6, 7]]
    let host := Host.bare .empty []
    let config := Config.new (Path.ofText "sop")
    first.map Setting.masked = second.map Setting.masked ∧
      Ready.AlikeAttempts
        (Operation.decrypt.prepare host config first [] .empty).1
        (Operation.decrypt.prepare host config second [] .empty).1 := by
  intro first second host config
  have same : first.map Setting.masked = second.map Setting.masked := rfl
  exact ⟨same, (secrets_stay_hidden .decrypt host config same [] [] .empty).2.1⟩

end StatelessPgp
