import StatelessPgp.Proofs.Channels.Slots
import StatelessPgp.Proofs.Operation.Ending
import StatelessPgp.Proofs.Traversal

/-!
# Reservation of side channels

An operation reserves its side channels one after another.  The first of them makes the
private directory; after that, only a path that is too long can stand in the way, for
nothing is in the new directory yet.
-/

namespace StatelessPgp

open FileTree

namespace Operation

variable {host : Host} {files made : FileTree} {path : Path}

/-- Whether the path of a channel's file can be used. -/
def checkChannel (path : Path) (channel : Channel) : Except SystemError Unit :=
  checkPath (path.join (Path.ofText channel.fileName))

/-- A reservation leaves the channels of other options unreserved. -/
theorem unreserved_cons {option : String × Channel} {rest : List (String × Channel)}
    {channels : Channels} (apart : option.2 ∉ rest.map Prod.snd)
    (unreserved : ∀ other ∈ option :: rest, channels.path? other.2 = none) (path : Path) :
    ∀ other ∈ rest, Channels.path? { channels with
      reserved := channels.reserved ++ [(option.2, path)] } other.2 = none := by
  intro other member
  have differs : other.2 ≠ option.2 := by
    intro same
    exact apart (same ▸ List.mem_map_of_mem member)
  rw [channels.path?_append_of_ne differs, unreserved other (.tail _ member)]

/-- Reserving channels in a directory that holds nothing fails at the first path that
cannot be used. -/
theorem reserveAll_opened {options : List (String × Channel)} {draft : Draft}
    {channels : Channels} (absolute : path.isAbsolute = true)
    (vacant : ∀ channel, checkChannel path channel = .ok () →
      made.discard host.directory (path.join (Path.ofText channel.fileName)) = .ok made)
    (opened : channels.directory = some path) (distinct : (options.map Prod.snd).Nodup)
    (unreserved : ∀ option ∈ options, channels.path? option.2 = none) :
    (∀ channel ∈ options.map Prod.snd, checkChannel path channel = .ok ()) ∧
        (∃ reserved later, reserveAll host draft channels made options =
          (.ok reserved, later, made)) ∨
      ∃ error later,
        reserveAll host draft channels made options = (.error error, later, made) ∧
          FirstFails (checkChannel path) (options.map Prod.snd) error := by
  induction options generalizing draft channels with
  | nil => exact .inl ⟨by simp, draft, channels, rfl⟩
  | cons option rest hypothesis =>
      have free := unreserved option (.head _)
      cases usable : checkChannel path option.2 with
      | error error =>
          refine .inr ⟨error, channels, ?_, .head usable _⟩
          rw [reserveAll, Channels.reserve_of_unusable opened absolute free usable]
      | ok =>
          obtain ⟨apart, distinct⟩ := List.nodup_cons.1 distinct
          rw [reserveAll, Channels.reserve_of_vacant opened free (vacant option.2 usable)]
          dsimp only
          rcases hypothesis (by exact opened) distinct
              (unreserved_cons apart unreserved _) with
            ⟨others, reserved⟩ | ⟨error, later, reserve, failed⟩
          · exact .inl ⟨List.forall_mem_cons.2 ⟨usable, others⟩, reserved⟩
          · exact .inr ⟨error, later, reserve, .cons usable failed⟩

theorem reserveAll_new {options : List (String × Channel)} (needed : options ≠ [])
    (parent : ScratchParent) (draft : Draft) :
    reserveAll host draft (.new parent) files options =
      match host.createScratch parent files with
      | .error error => (.error error, .new parent, files)
      | .ok (path, made) => reserveAll host draft ⟨parent, some path, []⟩ made options := by
  cases options with
  | nil => exact absurd rfl needed
  | cons option rest =>
      rw [reserveAll, Channels.reserve_of_unopened rfl rfl, Channels.new]
      cases host.createScratch parent files with
      | error error => rfl
      | ok created =>
          obtain ⟨path, made⟩ := created
          dsimp only
          rw [reserveAll]

/-- Channels can be reserved: there are none, or a private directory can be made in which all
their paths can be used. -/
def Reserves (host : Host) (config : Config) (files : FileTree)
    (channels : List Channel) : Prop :=
  channels ≠ [] →
    ∃ path made, host.createScratch config.scratchParent files = .ok (path, made) ∧
      ∀ channel ∈ channels, checkChannel path channel = .ok ()

/-- Why channels cannot be reserved. -/
inductive Unreserved (host : Host) (config : Config) (files : FileTree)
    (channels : List Channel) (error : SystemError) : Prop where
  | scratch (needed : channels ≠ [])
      (refused : host.createScratch config.scratchParent files = .error error)
  | channel {path : Path} {made : FileTree}
      (created : host.createScratch config.scratchParent files = .ok (path, made))
      (refused : FirstFails (checkChannel path) channels error)

namespace Unreserved

variable {config : Config} {channels : List Channel} {error other : SystemError}

theorem not_reserves (unreserved : Unreserved host config files channels error) :
    ¬ Reserves host config files channels := by
  intro reserves
  cases unreserved with
  | scratch needed refused =>
      obtain ⟨path, made, created, -⟩ := reserves needed
      cases refused.symm.trans created
  | channel created refused =>
      obtain ⟨path, made, same, usable⟩ := reserves refused.ne_nil
      cases created.symm.trans same
      obtain ⟨earlier, channel, later, rfl, -, fails⟩ := refused
      cases fails.symm.trans (usable channel (by simp))

theorem unique (left : Unreserved host config files channels error)
    (right : Unreserved host config files channels other) : error = other := by
  cases left with
  | scratch needed refused =>
      cases right with
      | scratch _ same => exact Except.error.inj (refused.symm.trans same)
      | channel created => cases refused.symm.trans created
  | channel created refused =>
      cases right with
      | scratch _ same => cases created.symm.trans same
      | channel same again =>
          cases created.symm.trans same
          exact refused.unique again

end Unreserved

theorem reserveAll_cases (config : Config) {options : List (String × Channel)}
    (closed : files.Closed) (distinct : (options.map Prod.snd).Nodup) (draft : Draft) :
    Reserves host config files (options.map Prod.snd) ∧
        (∃ reserved channels left,
          reserveAll host draft (.new config.scratchParent) files options =
            (.ok reserved, channels, left)) ∨
      ∃ error channels left,
        reserveAll host draft (.new config.scratchParent) files options =
            (.error error, channels, left) ∧
          Unreserved host config files (options.map Prod.snd) error := by
  by_cases needed : options = []
  · subst needed
    exact .inl ⟨fun needed => absurd rfl needed, draft, _, files, rfl⟩
  · rw [reserveAll_new needed]
    cases created : host.createScratch config.scratchParent files with
    | error error =>
        exact .inr ⟨error, _, files, rfl, .scratch (mt List.map_eq_nil_iff.1 needed) created⟩
    | ok scratch =>
        obtain ⟨path, made⟩ := scratch
        obtain ⟨place, kept⟩ := Channels.kept_of_createScratch
          (rfl : (Channels.new config.scratchParent).reserved = []) closed (fun _ => rfl)
          created
        have vacant (channel : Channel) (usable : checkChannel path channel = .ok ()) :
            made.discard host.directory (path.join (Path.ofText channel.fileName)) = .ok made :=
          (kept.reaches usable).discard_of_vacant (kept.stands channel)
        rcases reserveAll_opened kept.absolute vacant kept.directory distinct
            (fun _ _ => rfl) with ⟨usable, reserved, later, reserve⟩ |
              ⟨error, later, reserve, failed⟩
        · exact .inl ⟨fun _ => ⟨path, made, created, usable⟩, reserved, later, made, reserve⟩
        · exact .inr ⟨error, later, made, reserve, .channel created failed⟩

/-- The channels of an operation, in the order in which they are reserved. -/
def channels (operation : Operation) (settings : List Setting) : List Channel :=
  (operation.channelOptions settings).map Prod.snd

theorem nodup_channelOptions (operation : Operation) (settings : List Setting) :
    ((operation.channelOptions settings).map Prod.snd).Nodup := by
  cases operation with
  | decrypt =>
      rw [channelOptions]
      split <;> decide
  | _ => simp [channelOptions]

/-- Making an operation ready whose draft can be completed either succeeds, or fails
because its channels cannot be reserved. -/
theorem prepare_cases {operation : Operation} {config : Config} {settings : List Setting}
    {completed : Draft} (host : Host) (closed : files.Closed)
    (complete : operation.complete (operation.draft config.program settings) = .ok completed)
    (input : Bytes) :
    Reserves host config files (operation.channels settings) ∧
        (∃ ready left, operation.prepare host config settings input files = (.ok ready, left)) ∨
      ∃ error left,
        operation.prepare host config settings input files = (.error (.transfer error), left) ∧
          Unreserved host config files (operation.channels settings) error := by
  rw [prepare, complete]
  dsimp only
  rcases reserveAll_cases config closed (operation.nodup_channelOptions settings) completed with
    ⟨reserves, reserved, channels, left, reserve⟩ | ⟨error, channels, left, reserve, unreserved⟩
  · rw [reserve]
    exact .inl ⟨reserves, _, _, rfl⟩
  · rw [reserve]
    exact .inr ⟨error, _, rfl, unreserved⟩

theorem prepare_of_unreserved {operation : Operation} {config : Config}
    {settings : List Setting} {completed : Draft} {error : SystemError} (closed : files.Closed)
    (complete : operation.complete (operation.draft config.program settings) = .ok completed)
    (unreserved : Unreserved host config files (operation.channels settings) error)
    (input : Bytes) :
    ∃ left, operation.prepare host config settings input files =
      (.error (.transfer error), left) := by
  rcases prepare_cases host closed complete input with ⟨reserves, -⟩ | ⟨other, left, prepared, same⟩
  · exact absurd reserves unreserved.not_reserves
  · rw [unreserved.unique same]
    exact ⟨left, prepared⟩

theorem prepare_of_reserves {operation : Operation} {config : Config}
    {settings : List Setting} {completed : Draft} (closed : files.Closed)
    (complete : operation.complete (operation.draft config.program settings) = .ok completed)
    (reserves : Reserves host config files (operation.channels settings))
    (input : Bytes) :
    ∃ ready left, operation.prepare host config settings input files = (.ok ready, left) := by
  rcases prepare_cases host closed complete input with ⟨-, prepared⟩ | ⟨_, _, -, unreserved⟩
  · exact prepared
  · exact absurd reserves unreserved.not_reserves

end Operation
end StatelessPgp
