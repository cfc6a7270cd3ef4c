import StatelessPgp.Operation.Ready

/-!
# Making an operation ready

Completing a draft and reserving side channels append words, and do nothing to the
secrets.  An operation that has been made ready therefore carries exactly the
secrets of its settings.
-/

namespace StatelessPgp

namespace Operation

/-- Two drafts differ at most in the words after the subcommand. -/
structure Extends (earlier later : Draft) : Prop where
  program : later.program = earlier.program
  subcommand : later.subcommand = earlier.subcommand
  secrets : later.secrets = earlier.secrets

theorem Extends.refl (draft : Draft) : Extends draft draft :=
  ⟨rfl, rfl, rfl⟩

theorem Extends.trans {first second third : Draft} (left : Extends first second)
    (right : Extends second third) : Extends first third :=
  ⟨right.program.trans left.program, right.subcommand.trans left.subcommand,
    right.secrets.trans left.secrets⟩

theorem extends_append (texts : List String) (draft : Draft) :
    Extends draft (draft.append texts) :=
  ⟨rfl, rfl, rfl⟩

theorem extends_option (name value : String) (draft : Draft) :
    Extends draft (draft.option name value) :=
  ⟨rfl, rfl, rfl⟩

theorem extends_complete {operation : Operation} {draft completed : Draft}
    (complete : operation.complete draft = .ok completed) :
    Extends draft completed := by
  unfold Operation.complete at complete
  split at complete
  · cases complete
    exact extends_append _ _
  · split at complete
    · cases complete
      exact extends_append _ _
    · cases complete
  · split at complete
    · cases complete
      exact extends_append _ _
    · cases complete
  · cases complete
    exact Extends.refl _

theorem extends_reserveAll {host : Host} {draft reserved : Draft}
    {channels reservedChannels : Channels} {files reservedFiles : FileTree}
    {options : List (String × Channel)}
    (reserve : reserveAll host draft channels files options =
      (.ok reserved, reservedChannels, reservedFiles)) :
    Extends draft reserved := by
  induction options generalizing draft channels files with
  | nil =>
      cases reserve
      exact Extends.refl _
  | cons option rest hypothesis =>
      obtain ⟨name, channel⟩ := option
      unfold reserveAll at reserve
      split at reserve
      · cases reserve
      · exact (extends_option _ _ _).trans (hypothesis reserve)

/-- How an operation comes to be ready: its draft is completed, its channels are
reserved, and then it is frozen. -/
theorem prepare_ok {operation : Operation} {host : Host} {config : Config}
    {settings : List Setting} {input : Bytes} {files preparedFiles : FileTree}
    {ready : Ready operation}
    (prepared : operation.prepare host config settings input files =
      (.ok ready, preparedFiles)) :
    ∃ completed reserved channels,
      operation.complete (operation.draft config.program settings) = .ok completed ∧
      reserveAll host completed (Channels.new config.scratchParent) files
          (operation.channelOptions settings) = (.ok reserved, channels, preparedFiles) ∧
      ready = ⟨config, reserved.freeze,
        if operation.hasInput then some input else none, channels⟩ := by
  unfold prepare at prepared
  split at prepared
  · cases prepared
  · next completed complete =>
      split at prepared
      · cases prepared
      · next reserved channels reservedFiles reserve =>
          cases prepared
          exact ⟨completed, reserved, channels, complete, reserve, rfl⟩

theorem prepare_secrets {operation : Operation} {host : Host} {config : Config}
    {settings : List Setting} {input : Bytes} {files preparedFiles : FileTree}
    {ready : Ready operation}
    (prepared : operation.prepare host config settings input files =
      (.ok ready, preparedFiles)) :
    ready.command.secrets = (operation.draft config.program settings).secrets := by
  obtain ⟨completed, reserved, channels, complete, reserve, rfl⟩ := prepare_ok prepared
  exact ((extends_complete complete).trans (extends_reserveAll reserve)).secrets

theorem prepare_config {operation : Operation} {host : Host} {config : Config}
    {settings : List Setting} {input : Bytes} {files preparedFiles : FileTree}
    {ready : Ready operation}
    (prepared : operation.prepare host config settings input files =
      (.ok ready, preparedFiles)) : ready.config = config := by
  obtain ⟨_, _, _, _, _, rfl⟩ := prepare_ok prepared
  rfl

end Operation
end StatelessPgp
