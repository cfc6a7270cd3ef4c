import StatelessPgp.Proofs.Cli.Demands
import StatelessPgp.Proofs.Cli.Launch

/-!
# Checks before the backend is run

An operation is checked in stages: whether its arguments go together, the outputs and the data
that it names, the side channels, and the secrets.  The first check that fails ends the program
before the backend is run, and nothing is left behind.
-/

namespace StatelessPgp

open FileTree

/-- The failure that refuses a secret which the environment cannot carry. -/
def Binding.refusal (binding : Binding) : Failure :=
  .new .badData ("Secret " ++ binding.name ++ " contains a NUL byte and cannot be passed " ++
    "through the environment; pass armored data instead")

theorem Secrets.validate_of_refused {secrets earlier later : Secrets} {binding : Binding}
    (split : secrets = earlier ++ binding :: later)
    (first : ∀ other ∈ earlier, other.isPortable = true)
    (refused : binding.isPortable = false) :
    secrets.validate = .error binding.refusal := by
  have found : (secrets.find? fun binding => !binding.isPortable) = some binding := by
    rw [List.find?_eq_some_iff_append]
    refine ⟨by simpa using refused, earlier, later, split, ?_⟩
    intro other member
    simpa using first other member
  rw [validate, found]
  rfl

/-- Secrets are numbered in the order in which they are given. -/
theorem Secrets.Allocated.exists_split {secrets : Secrets} (allocated : secrets.Allocated)
    {earlier later : List (Category × Bytes)} {secret : Category × Bytes}
    (carries : secrets.map Binding.secret = earlier ++ secret :: later) :
    ∃ before after, before.map Binding.secret = earlier ∧
      secrets = before ++
        ⟨secret.1, earlier.countP fun other => decide (other.1 = secret.1), secret.2⟩ ::
          after := by
  obtain ⟨before, rest, split, rfl, last⟩ := List.map_eq_append_iff.1 carries
  obtain ⟨binding, after, rfl, rfl, -⟩ := List.map_eq_cons_iff.1 last
  refine ⟨before, after, rfl, ?_⟩
  have number : binding.index = (before.map Binding.secret).countP fun other =>
      decide (other.1 = binding.category) := by
    rw [allocated.index_eq split, List.countP_map]
    rfl
  rw [split, Binding.secret, ← number]

namespace Draft

/-- Whether a piece sets the first of the words held back. -/
def setsFirst (piece : Piece) : Bool :=
  match piece with
  | .heldFirst _ | .secretHeldFirst _ _ => true
  | _ => false

theorem isSome_first_addAll (draft : Draft) (pieces : List Piece) :
    (draft.addAll pieces).first.isSome = (pieces.any setsFirst || draft.first.isSome) := by
  induction pieces generalizing draft with
  | nil => rfl
  | cons piece rest hypothesis =>
      rw [addAll_cons, hypothesis, List.any_cons]
      cases piece <;> simp [add, setsFirst, word, option, bind]

end Draft

theorem Operation.exists_first {operation : Operation} {settings : List Setting}
    {setting : Setting} {piece : Piece} (member : setting ∈ settings)
    (contributes : piece ∈ operation.pieces setting) (first : Draft.setsFirst piece = true)
    (program : String) : ∃ word, (operation.draft program settings).first = some word := by
  rw [← Option.isSome_iff_exists, Operation.draft, Draft.isSome_first_addAll,
    Bool.or_eq_true]
  left
  rw [List.any_eq_true]
  exact ⟨piece, List.mem_flatMap.2 ⟨setting, member, contributes⟩, first⟩

namespace Cli

/-- When all its data has been read, nothing that the operation needs is missing. -/
theorem Task.exists_complete {task : Task} {host : Host} {files : FileTree}
    {settings : List Setting} (checked : task.plan.settings host files = .ok settings)
    (program : String) :
    ∃ completed, task.plan.operation.complete
      (task.plan.operation.draft program settings) = .ok completed := by
  have resolves := Plan.settings_eq_ok_iff.1 checked
  cases task with
  | verify notBefore notAfter signatures certs =>
      have member : Source.secret "signature" .signatures signatures ∈
          (Task.verify notBefore notAfter signatures certs).plan.sources := by
        simp [plan, Source.secrets]
      obtain ⟨setting, inside, yields⟩ := exists_of_forall₂ resolves.sources member
      cases yields with
      | @secret _ _ _ data read =>
          have contributes : Piece.secretHeldFirst .signature data ∈
              Operation.verify.pieces (.signatures data) := .head _
          obtain ⟨word, first⟩ := Operation.exists_first inside contributes rfl program
          change ∃ completed, Operation.verify.complete
            (Operation.verify.draft program settings) = .ok completed
          rw [Operation.complete, first]
          exact ⟨_, rfl⟩
  | validateUserId addrSpecOnly validateAt userId authorities =>
      have member : Source.given (.userId userId) ∈
          (Task.validateUserId addrSpecOnly validateAt userId authorities).plan.sources := by
        simp [plan]
      obtain ⟨setting, inside, yields⟩ := exists_of_forall₂ resolves.sources member
      cases yields with
      | given =>
          have contributes : Piece.heldFirst userId ∈
              Operation.validateUserId.pieces (.userId userId) := .head _
          obtain ⟨word, first⟩ := Operation.exists_first inside contributes rfl program
          change ∃ completed, Operation.validateUserId.complete
            (Operation.validateUserId.draft program settings) = .ok completed
          rw [Operation.complete, first]
          exact ⟨_, rfl⟩
  | _ => exact ⟨_, rfl⟩

/-- Every check that a request calls for has been passed.  An inquiry calls for none. -/
inductive Request.Cleared (host : Host) (config : Config) (files : FileTree) :
    Request → Prop where
  | inquiry (question : Question) : Cleared host config files (.inquire question)
  | operation {task : Task} {secrets : List (Category × Bytes)}
      (admits : task.Admits host files secrets)
      (reserves : Operation.Reserves host config files task.channels)
      (portable : ∀ secret ∈ secrets, 0 ∉ secret.2) :
      Cleared host config files (.operate task)

/-- The first check that fails, with its failure. -/
inductive Request.Obstructed (host : Host) (config : Config) (files : FileTree) :
    Request → Failure → Prop where
  | refused {task : Task} {failure : Failure} (refuses : task.Refuses host files failure) :
      Obstructed host config files (.operate task) failure
  | unreserved {task : Task} {secrets : List (Category × Bytes)} {error : SystemError}
      (admits : task.Admits host files secrets)
      (unreserved : Operation.Unreserved host config files task.channels error) :
      Obstructed host config files (.operate task) (.transfer error)
  | unportable {task : Task} {earlier later : List (Category × Bytes)} {category : Category}
      {value : Bytes} (admits : task.Admits host files (earlier ++ (category, value) :: later))
      (reserves : Operation.Reserves host config files task.channels)
      (first : ∀ secret ∈ earlier, 0 ∉ secret.2) (refused : 0 ∈ value) :
      Obstructed host config files (.operate task)
        (Binding.refusal
          ⟨category, earlier.countP fun secret => decide (secret.1 = category), value⟩)

/-- With secrets that the environment cannot carry, the side channels are released again. -/
theorem Task.perform_of_invalid {host : Host} {config : Config} {task : Task}
    {settings : List Setting} {ready : Ready task.plan.operation} {input : Bytes}
    {world : World} {left : FileTree} {failure : Failure}
    (checked : task.plan.settings host world.files = .ok settings)
    (prepared : task.plan.operation.prepare host config settings input world.files =
      (.ok ready, left)) (invalid : ready.command.secrets.validate = .error failure) :
    ∃ reported,
      task.plan.perform host config input world =
          (.error reported,
            ⟨[], [], ⟨ready.channels.release host.directory left, world.calls⟩⟩) ∧
        reported.status = failure.status := by
  obtain ⟨reported, delivered, kept⟩ := task.deliver_recover failure
  have ran : ready.run host { world with files := left } =
      ⟨[], task.plan.operation.recover failure,
        ⟨ready.channels.release host.directory left, world.calls⟩⟩ := by
    rw [Ready.run, Command.execute_of_invalid invalid]
    cases task.plan.operation.isStreamed <;> rfl
  refine ⟨reported, ?_, kept⟩
  rw [Plan.perform, checked]
  dsimp only
  rw [Operation.invoke, prepared]
  dsimp only
  rw [ran, delivered]
  rfl

namespace Request

variable {host : Host} {config : Config} {request : Request}

theorem cleared_or_obstructed {files : FileTree} (closed : files.Closed) (host : Host)
    (config : Config) (request : Request) :
    request.Cleared host config files ∨
      ∃ failure, request.Obstructed host config files failure := by
  cases request with
  | inquire question => exact .inl (.inquiry question)
  | operate task =>
      cases checked : task.plan.settings host files with
      | error failure => exact .inr ⟨failure, .refused (Task.settings_eq_error_iff.1 checked)⟩
      | ok settings =>
          have admits := Task.admits_of_settings checked
          obtain ⟨completed, complete⟩ := task.exists_complete checked config.program
          rw [← Task.map_secret_plan checked config.program] at admits
          rcases Operation.prepare_cases host closed complete [] with
            ⟨reserves, -⟩ | ⟨error, _, -, unreserved⟩
          · rw [Task.channels_plan checked] at reserves
            rcases (task.plan.operation.draft config.program settings).secrets.validate_cases
              with ⟨-, portable⟩ | ⟨earlier, binding, later, secrets, first, refused, -⟩
            · refine .inl (.operation admits reserves (List.forall_mem_map.2 ?_))
              exact fun binding member => Binding.isPortable_iff.1 (portable binding member)
            · rw [secrets, List.map_append, List.map_cons] at admits
              refine .inr ⟨_, .unportable admits reserves (List.forall_mem_map.2 ?_) ?_⟩
              · exact fun other member => Binding.isPortable_iff.1 (first other member)
              · simpa [Binding.isPortable] using refused
          · rw [Task.channels_plan checked] at unreserved
            exact .inr ⟨_, .unreserved admits unreserved⟩

/-- A request with a check that fails is reported by the failure, and it neither runs the
backend nor leaves anything behind. -/
theorem perform_of_obstructed {world : World} {failure : Failure}
    (closed : world.files.Closed)
    (obstructed : request.Obstructed host config world.files failure) (input : Bytes) :
    ∃ reported files,
      request.perform host config input world =
          (.error reported, ⟨[], [], ⟨files, world.calls⟩⟩) ∧
        reported.status = failure.status ∧ files.SameEntries world.files := by
  cases obstructed with
  | @refused task _ refuses =>
      refine ⟨failure, world.files, ?_, rfl, fun _ => rfl⟩
      change task.plan.perform host config input world = _
      rw [Plan.perform, Task.settings_eq_error_iff.2 refuses]
      rfl
  | @unreserved task secrets error admits unreserved =>
      obtain ⟨settings, checked, -⟩ := Task.exists_settings admits
      obtain ⟨completed, complete⟩ := task.exists_complete checked config.program
      rw [← Task.channels_plan checked] at unreserved
      obtain ⟨left, prepared⟩ :=
        Operation.prepare_of_unreserved closed complete unreserved input
      refine ⟨.transfer error, left, ?_, rfl, Operation.prepare_owned closed prepared⟩
      change task.plan.perform host config input world = _
      rw [Plan.perform, checked]
      dsimp only
      rw [Operation.invoke, prepared]
      rfl
  | @unportable task earlier later category value admits reserves first refused =>
      obtain ⟨settings, checked, sealed⟩ := Task.exists_settings admits
      obtain ⟨completed, complete⟩ := task.exists_complete checked config.program
      rw [← Task.channels_plan checked] at reserves
      obtain ⟨ready, left, prepared⟩ :=
        Operation.prepare_of_reserves closed complete reserves input
      obtain ⟨before, after, rfl, secrets⟩ :=
        (task.plan.operation.draft_allocated config.program settings).exists_split
          ((Task.map_secret_plan checked config.program).trans sealed)
      have invalid := Secrets.validate_of_refused
        ((Operation.prepare_secrets prepared).trans secrets)
        (fun other member => Binding.isPortable_iff.2 (first _ (List.mem_map_of_mem member)))
        (by simpa [Binding.isPortable] using refused)
      obtain ⟨reported, performed, kept⟩ :=
        task.perform_of_invalid checked prepared invalid
      exact ⟨reported, _, performed, kept,
        (Operation.prepare_owned closed prepared).release closed⟩

end Request

theorem createScratch_within {host : Host} {parent : Path} {files : FileTree}
    {place : Location} (absolute : parent.isAbsolute = true)
    (resolved : files.resolveName host.directory
      (parent.join (host.scratchName files parent)) = .ok place)
    (vacant : files.checkVacant place = .ok ()) :
    host.createScratch (.within parent) files =
      .ok (parent.join (host.scratchName files parent), files.set place .directory) := by
  have there : host.scratchParent (.within parent) = parent := by
    rw [Host.scratchParent, Path.join, absolute, if_pos rfl]
  rw [Host.createScratch, there, createDirectory, resolved]
  dsimp only
  rw [vacant]
  rfl

end Cli
end StatelessPgp
