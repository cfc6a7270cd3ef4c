import StatelessPgp.Inquiry
import StatelessPgp.Proofs.Operation.Allocation

/-!
# Layers of the environment

A program gets the variables of the host, over them the configured ones, and over
both the secrets.  Since no two secrets have the same name, each of them arrives
under the name by which the command line refers to it, whatever else is defined
under that name.
-/

namespace StatelessPgp

namespace Host

theorem map_fst_secrets (command : Command) :
    (command.secrets.map fun binding => (binding.name, binding.value)).map Prod.fst =
      command.secretNames := by
  rw [List.map_map]
  rfl

/-- Secrets win over configured variables, and these over the host's. -/
theorem get?_environmentFor (host : Host) (config : Config) {command : Command}
    (distinct : command.secretNames.Nodup) (name : String) :
    (host.environmentFor config command).get? name =
      ((command.secrets.map fun binding => (binding.name, binding.value)).lookup name).or
        ((config.environment.get? name).or (host.environment.get? name)) := by
  rw [← map_fst_secrets] at distinct
  rw [environmentFor, Environment.get?_setAll _ distinct,
    Environment.get?_setAll _ config.environment.distinct]
  rfl

theorem get?_environmentFor_of_mem (host : Host) (config : Config) {command : Command}
    (distinct : command.secretNames.Nodup) {binding : Binding}
    (member : binding ∈ command.secrets) :
    (host.environmentFor config command).get? binding.name = some binding.value := by
  rw [host.get?_environmentFor config distinct]
  rw [← map_fst_secrets] at distinct
  rw [lookup_of_mem distinct (List.mem_map_of_mem member)]
  rfl

theorem get?_environmentFor_of_not_mem (host : Host) (config : Config)
    {command : Command} (distinct : command.secretNames.Nodup) {name : String}
    (absent : name ∉ command.secretNames) :
    (host.environmentFor config command).get? name =
      (config.environment.get? name).or (host.environment.get? name) := by
  rw [host.get?_environmentFor config distinct]
  rw [← map_fst_secrets] at absent
  rw [lookup_of_not_mem absent]
  rfl

end Host

/-- Every builder hands each secret to the program under the name by which the call
that gave the secret refers to it.  All other variables are as configured, and else
as the host has them. -/
theorem environment_carries_secrets (host : Host) (config : Config) :
    (∀ (operation : Operation) (settings : List Setting) (input : Bytes)
        (files preparedFiles : FileTree) (ready : Ready operation),
      operation.prepare host config settings input files = (.ok ready, preparedFiles) →
      ready.command.secretNames.Nodup ∧
      (∀ (before after : List Setting) (setting : Setting) (value : Bytes),
        settings = before ++ setting :: after → operation.accepts setting = true →
        setting.secret? = some value →
        ∃ name,
          Draft.Refers (operation.draft config.program before)
            (operation.draft config.program (before ++ [setting]))
            (environmentMark ++ name) ∧
          (host.environmentFor config ready.command).get? name = some value) ∧
      ∀ name, name ∉ ready.command.secretNames →
        (host.environmentFor config ready.command).get? name =
          (config.environment.get? name).or (host.environment.get? name)) ∧
    ∀ (subcommand : String) (words : List String) (name : String),
      (host.environmentFor config (inquiry config subcommand words)).get? name =
        (config.environment.get? name).or (host.environment.get? name) := by
  constructor
  · intro operation settings input files preparedFiles ready prepared
    have secrets := Operation.prepare_secrets prepared
    have distinct : ready.command.secretNames.Nodup := by
      rw [Command.secretNames, secrets]
      exact (operation.draft_allocated config.program settings).names_nodup
    refine ⟨distinct, ?_, fun name absent =>
      host.get?_environmentFor_of_not_mem config distinct absent⟩
    rintro before after setting value rfl accepted secret
    obtain ⟨binding, member, rfl, refers⟩ :=
      Operation.draft_binds accepted secret config.program before after
    rw [← secrets] at member
    exact ⟨binding.name, refers, host.get?_environmentFor_of_mem config distinct member⟩
  · intro subcommand words name
    have noSecrets : (inquiry config subcommand words).secretNames = [] := rfl
    exact host.get?_environmentFor_of_not_mem config (by simp [noSecrets])
      (by simp [noSecrets])

/-- The second certificate of a verification arrives although the variable that
carries it is configured and inherited as well. -/
theorem environment_carries_second_cert :
    let host := Host.bare (Environment.empty.set "CERT_1" [7]) []
    let config := (Config.new (Path.ofText "sop")).withVariable "CERT_1" "configured"
    ∃ (ready : Ready .verify) (name : String),
      Operation.verify.prepare host config [.cert [1], .signatures [2], .cert [3]] []
        .empty = (.ok ready, .empty) ∧
      Draft.Refers (Operation.verify.draft config.program [.cert [1], .signatures [2]])
        (Operation.verify.draft config.program [.cert [1], .signatures [2], .cert [3]])
        (environmentMark ++ name) ∧
      (host.environmentFor config ready.command).get? name = some [3] := by
  intro host config
  have carried := (environment_carries_secrets host config).1 .verify
    [.cert [1], .signatures [2], .cert [3]] [] .empty .empty _ rfl
  obtain ⟨name, refers, found⟩ :=
    carried.2.1 [.cert [1], .signatures [2]] [] (.cert [3]) [3] rfl rfl rfl
  exact ⟨_, name, rfl, refers, found⟩

end StatelessPgp
