import StatelessPgp.Channels
import StatelessPgp.Proofs.Files.Walk

/-!
# Releasing side channels

The side channels of one invocation own at most one directory, and it is new.
Reserving and reading channels only touches files in that directory, and a backend
that keeps to it leaves it in its place.  Releasing the channels then makes the tree
what it was before.
-/

namespace StatelessPgp

open FileTree

theorem Channel.isProper_fileName (channel : Channel) :
    Path.IsProper (Path.ofText channel.fileName) := by
  cases channel <;> exact ⟨by decide, by decide, by decide, by decide⟩

theorem FileTree.discard_eq_ok {files discarded : FileTree} {base : Location}
    {path : Path} (done : files.discard base path = .ok discarded) :
    discarded = files ∨ files.removeFile base path = .ok discarded := by
  unfold discard at done
  split at done
  · next removed => exact .inr (removed.trans done)
  · split at done
    · exact .inl (Except.ok.inj done).symm
    · cases done

/-- A scratch directory is new, and its path starts at the root. -/
theorem Host.createScratch_eq_ok {host : Host} {parent : ScratchParent}
    {files made : FileTree} {path : Path}
    (done : host.createScratch parent files = .ok (path, made)) :
    path.isAbsolute = true ∧
      ∃ place, files.resolveName host.directory path = .ok place ∧
        Grafted place files made := by
  unfold createScratch at done
  dsimp only at done
  split at done
  · next location created creates =>
      cases done
      refine ⟨?_, location, createDirectory_eq_ok creates⟩
      apply Path.isAbsolute_join
      apply Path.isAbsolute_join
      exact Path.isAbsolute_ofLocation host.directory
  · cases done

namespace FileTree

theorem isPart_discard {files discarded : FileTree} {base : Location} {path : Path}
    (done : files.discard base path = .ok discarded) : discarded.IsPart files := by
  rcases discard_eq_ok done with rfl | removed
  · exact .refl _
  · obtain ⟨location, -, rfl⟩ := removeFile_eq_ok removed
    exact files.isPart_erase location

theorem isPart_removeDirectory (files : FileTree) (base : Location) (path : Path) :
    (files.removeDirectory base path).IsPart files := by
  unfold removeDirectory
  split
  · exact files.isPart_prune _
  · exact .refl files

end FileTree

namespace Channels

/-- Releasing channels creates no entry. -/
theorem isPart_release (channels : Channels) (base : Location) (files : FileTree) :
    (channels.release base files).IsPart files := by
  have discarded : (channels.reserved.foldl
      (fun files entry => (files.discard base entry.2).toOption.getD files)
        files).IsPart files := by
    generalize channels.reserved = entries
    induction entries generalizing files with
    | nil => exact .refl files
    | cons entry rest hypothesis =>
        refine (hypothesis _).trans ?_
        dsimp only
        cases done : files.discard base entry.2 with
        | error error => exact .refl files
        | ok discarded => exact isPart_discard done
  rw [release]
  cases channels.directory with
  | none => exact discarded
  | some path => exact (isPart_removeDirectory _ base path).trans discarded

/-- A location in the private directory of channels. -/
def Private (channels : Channels) (base : Location) (files : FileTree)
    (location : Location) : Prop :=
  ∃ path place, channels.directory = some path ∧
    files.resolveName base path = .ok place ∧ place <+: location ∧ location ≠ place

/-- Files have changed in the private directory at most. -/
def Confined (channels : Channels) (base : Location) (before after : FileTree) : Prop :=
  ∀ location, ¬ channels.Private base before location →
    after.get? location = before.get? location

/-- All that files have more than before is the private directory of channels. -/
inductive Owned (base : Location) (before : FileTree) (channels : Channels)
    (files : FileTree) : Prop where
  | unopened (directory : channels.directory = none) (reserved : channels.reserved = [])
      (same : files.SameEntries before)
  | opened (path : Path) (place : Location) (directory : channels.directory = some path)
      (absolute : path.isAbsolute = true)
      (leads : before.resolveName base path = .ok place)
      (grafted : Grafted place before files)
      (reserved : ∀ entry ∈ channels.reserved,
        entry.2 = path.join (Path.ofText entry.1.fileName))

/-- Discarding the file of a channel leaves the private directory. -/
theorem grafted_discard {base place : Location} {before files discarded : FileTree}
    {path : Path} (closed : before.Closed) (absolute : path.isAbsolute = true)
    (leads : before.resolveName base path = .ok place) (grafted : Grafted place before files)
    {channel : Channel}
    (done : files.discard base (path.join (Path.ofText channel.fileName)) =
      .ok discarded) : Grafted place before discarded := by
  rcases discard_eq_ok done with rfl | removed
  · exact grafted
  · obtain ⟨location, joined, rfl⟩ := removeFile_eq_ok removed
    have inside := grafted.resolveName_join closed absolute leads
      channel.isProper_fileName joined
    refine grafted.erase ⟨_, inside.symm⟩ ?_
    rw [inside]
    simp

namespace Owned

variable {host : Host} {base : Location} {before files : FileTree} {channels : Channels}

theorem new (files : FileTree) (parent : ScratchParent) :
    Owned base files (Channels.new parent) files :=
  .unopened rfl rfl fun _ => rfl

theorem openDirectory (owned : Owned host.directory before channels files) :
    Owned host.directory before (channels.openDirectory host files).2.1
        (channels.openDirectory host files).2.2 ∧
      ∀ path, (channels.openDirectory host files).1 = .ok path →
        (channels.openDirectory host files).2.1.directory = some path := by
  unfold Channels.openDirectory
  split
  · next path directory =>
      refine ⟨owned, ?_⟩
      rintro path' ⟨⟩
      exact directory
  · next directory =>
      split
      · exact ⟨owned, nofun⟩
      · next path made done =>
          obtain ⟨absolute, place, leads, grafted⟩ := Host.createScratch_eq_ok done
          cases owned with
          | unopened _ reserved same =>
              refine ⟨.opened path place rfl absolute ?_ (.of_sameEntries same grafted) ?_, ?_⟩
              · rwa [← same.resolveName_eq]
              · simp [reserved]
              · rintro path' ⟨⟩
                rfl
          | opened _ _ opened =>
              rw [directory] at opened
              cases opened

/-- Reserving a channel at most makes the private directory. -/
theorem reserve (owned : Owned host.directory before channels files)
    (closed : before.Closed) (channel : Channel) :
    Owned host.directory before (channels.reserve host channel files).2.1
      (channels.reserve host channel files).2.2 := by
  unfold Channels.reserve
  split
  · exact owned
  · have outcome := owned.openDirectory
    generalize channels.openDirectory host files = reached at outcome ⊢
    obtain ⟨result, channels, files⟩ := reached
    obtain ⟨opened, directory⟩ := outcome
    cases result with
    | error error => exact opened
    | ok parent =>
        dsimp only at opened directory ⊢
        split
        · exact opened
        · next discarded done =>
            cases opened with
            | unopened missing =>
                rw [directory parent rfl] at missing
                cases missing
            | opened path place known absolute leads grafted reserved =>
                rw [directory parent rfl] at known
                cases known
                refine .opened parent place (directory parent rfl) absolute leads
                  (grafted_discard closed absolute leads grafted done) ?_
                intro entry member
                rcases List.mem_append.1 member with earlier | new
                · exact reserved entry earlier
                · rw [List.mem_singleton.1 new]

/-- Changes in the private directory leave it the only one that has been added. -/
theorem confined {after : FileTree} (owned : Owned base before channels files)
    (closed : before.Closed) (changed : channels.Confined base files after) :
    Owned base before channels after := by
  cases owned with
  | unopened directory reserved same =>
      refine .unopened directory reserved ?_
      intro location
      rw [changed location, same location]
      rintro ⟨path, place, opened, -⟩
      rw [directory] at opened
      cases opened
  | opened path place directory absolute leads grafted reserved =>
      refine .opened path place directory absolute leads ⟨grafted.vacant, ?_, ?_⟩ reserved
      · rw [changed place, grafted.made]
        rintro ⟨other, there, opened, found, -, differs⟩
        rw [directory] at opened
        cases opened
        rw [grafted.resolveName_eq closed absolute leads] at found
        exact differs (Except.ok.inj found)
      · intro location apart
        rw [changed location, grafted.outside location apart]
        rintro ⟨other, there, opened, found, below, -⟩
        rw [directory] at opened
        cases opened
        rw [grafted.resolveName_eq closed absolute leads] at found
        cases found
        exact apart below

/-- The files of reserved channels lie in the private directory, with what is below
them. -/
theorem isPrivate (owned : Owned base before channels files) (closed : before.Closed)
    {entry : Channel × Path} (reserved : entry ∈ channels.reserved)
    {location below : Location} (leads : files.resolveName base entry.2 = .ok location)
    (inside : location <+: below) : channels.Private base files below := by
  cases owned with
  | unopened directory empty =>
      rw [empty] at reserved
      cases reserved
  | opened path place directory absolute found grafted named =>
      rw [named entry reserved] at leads
      have joined := grafted.resolveName_join closed absolute found
        entry.1.isProper_fileName leads
      have longer : place.length < below.length := by
        have bound := inside.length_le
        rw [joined, List.length_append] at bound
        exact bound
      refine ⟨path, place, directory, grafted.resolveName_eq closed absolute found, ?_, ?_⟩
      · rw [joined] at inside
        exact (List.prefix_append place _).trans inside
      · rintro rfl
        exact Nat.lt_irrefl _ longer

/-- Reading a channel touches its file alone. -/
theorem consume (owned : Owned base before channels files) (closed : before.Closed)
    (channel : Channel) :
    Owned base before (channels.consume base channel files).2.1
      (channels.consume base channel files).2.2 := by
  unfold Channels.consume
  split
  · exact owned
  · next path found =>
      obtain ⟨_, _, split, -⟩ := List.lookup_eq_some_iff.1 found
      cases owned with
      | unopened directory empty =>
          rw [empty] at split
          simp at split
      | opened parent place directory absolute leads grafted reserved =>
          have forgotten : ∀ entry ∈ (channels.forget channel).reserved,
              entry.2 = parent.join (Path.ofText entry.1.fileName) := by
            intro entry member
            exact reserved entry (List.mem_filter.1 member).1
          have named := reserved (channel, path) (by simp [split])
          dsimp only at named ⊢
          split
          · exact .opened parent place directory absolute leads grafted forgotten
          · next discarded done =>
              rw [named] at done
              exact .opened parent place directory absolute leads
                (grafted_discard closed absolute leads grafted done) forgotten

/-- Releasing the channels removes all that there is more than before. -/
theorem release (owned : Owned base before channels files) (closed : before.Closed) :
    (channels.release base files).SameEntries before := by
  cases owned with
  | unopened directory reserved same =>
      rw [Channels.release, directory, reserved]
      exact same
  | opened path place directory absolute leads grafted reserved =>
      have left : Grafted place before (channels.reserved.foldl
          (fun files entry => (files.discard base entry.2).toOption.getD files) files) := by
        -- Each file is discarded in a tree that still has the private directory.
        generalize channels.reserved = entries at reserved
        induction entries generalizing files with
        | nil => exact grafted
        | cons entry rest hypothesis =>
            refine hypothesis ?_ fun other member => reserved other (.tail _ member)
            dsimp only
            rw [reserved entry (.head _)]
            cases done : files.discard base (path.join (Path.ofText entry.1.fileName)) with
            | error error => exact grafted
            | ok discarded => exact grafted_discard closed absolute leads grafted done
      rw [Channels.release, directory]
      dsimp only
      rw [left.removeDirectory_eq closed absolute leads]
      exact left.sameEntries_prune closed

end Owned
end Channels
end StatelessPgp
