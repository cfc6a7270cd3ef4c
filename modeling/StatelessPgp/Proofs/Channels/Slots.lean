import Mathlib.Data.List.Nodup
import StatelessPgp.Proofs.Channels.Table

/-!
# Side channels are slots

While there is a private directory, each channel is as its slot says: reserved or not,
and with nothing, data or a directory at its path.  Reserving, consuming and whatever a
backend attempts at a path keep it so, with the answers that the slots foresee.
-/

namespace StatelessPgp

open FileTree

namespace Channel

theorem fileName_inj {channel other : Channel}
    (same : Path.ofText channel.fileName = Path.ofText other.fileName) :
    channel = other := by
  cases channel <;> cases other <;> first | rfl | exact absurd same (by decide)

theorem length_fileName_le (channel : Channel) :
    (Path.ofText channel.fileName).length ≤ maxNameLength := by
  cases channel <;> decide

end Channel

/-- Joining different proper names to a path gives different paths. -/
theorem Path.join_inj {path : Path} {first second : Name} (left : Path.IsProper first)
    (right : Path.IsProper second) (same : path.join first = path.join second) :
    first = second := by
  rw [Path.join, Path.join, left.isAbsolute_eq_false, right.isAbsolute_eq_false] at same
  by_cases direct : (path.getLast? == some Path.slash || path.isEmpty) = true <;>
    simpa [direct] using same

/-- Whatever has been discarded is gone, and it was no directory. -/
theorem Content.discard_eq_ok {content left : Content} (done : content.discard = .ok left) :
    left = .nothing ∧ content ≠ .directory := by
  cases content <;> cases done <;> exact ⟨rfl, nofun⟩

namespace FileTree

/-- Nothing can be discarded at a path that the system does not look at. -/
theorem discard_of_unusable {files : FileTree} {base : Location} {path : Path}
    {error : SystemError} (inside : path ≠ []) (unusable : checkPath path = .error error) :
    files.discard base path = .error error := by
  have present : error.isMissing = false := by
    unfold checkPath at unusable
    split at unusable
    · cases unusable
      rfl
    · split at unusable
      · next empty => exact absurd (List.isEmpty_iff.1 empty) inside
      · split at unusable
        · cases unusable
          rfl
        · cases unusable
  rw [discard, removeFile, resolveName, unusable]
  simp [present]

/-- A directory that has just been made is the only change. -/
theorem createDirectory_elsewhere {tree made : FileTree} {base location : Location}
    {path : Path} (done : tree.createDirectory base path = .ok (location, made))
    {other : Location} (differs : other ≠ location) :
    made.get? other = tree.get? other := by
  unfold createDirectory at done
  split at done
  · cases done
  · next place resolved =>
      cases checked : tree.checkVacant place with
      | error error => simp [checked, Except.map] at done
      | ok =>
          rw [checked] at done
          obtain ⟨rfl, rfl⟩ := Prod.mk.inj (Except.ok.inj done)
          exact tree.get?_set_of_ne .directory differs

end FileTree

/-- A scratch directory that has just been made holds nothing. -/
theorem Host.createScratch_empty {host : Host} {parent : ScratchParent}
    {files made : FileTree} {path : Path} {place : Location} (closed : files.Closed)
    (done : host.createScratch parent files = .ok (path, made))
    (leads : files.resolveName host.directory path = .ok place) (name : Name) :
    made.get? (place ++ [name]) = none := by
  unfold createScratch at done
  dsimp only at done
  split at done
  · next location _ creates =>
      cases done
      obtain ⟨named, grafted⟩ := createDirectory_eq_ok creates
      obtain rfl : location = place := Except.ok.inj (named.symm.trans leads)
      rw [createDirectory_elsewhere creates (by simp)]
      exact closed.get?_eq_none grafted.vacant (List.prefix_append location [name])
  · cases done

/-- Whether a tree is closed depends on the entries alone. -/
theorem FileTree.Closed.of_sameEntries {first second : FileTree} (closed : second.Closed)
    (same : first.SameEntries second) : first.Closed := by
  intro location name found
  rw [IsDirectory, same location]
  exact closed location name (same (location ++ [name]) ▸ found)

namespace Channels

section

variable {host : Host} {channels : Channels} {channel : Channel} {files : FileTree}
variable {path : Path}

theorem openDirectory_of_opened (opened : channels.directory = some path) :
    channels.openDirectory host files = (.ok path, channels, files) := by
  rw [openDirectory, opened]

theorem reserve_of_vacant (opened : channels.directory = some path)
    (unreserved : channels.path? channel = none)
    (vacant : files.discard host.directory (path.join (Path.ofText channel.fileName)) =
      .ok files) :
    channels.reserve host channel files =
      (.ok (path.join (Path.ofText channel.fileName)),
        { channels with
          reserved := channels.reserved ++
            [(channel, path.join (Path.ofText channel.fileName))] },
        files) := by
  rw [reserve, unreserved, openDirectory_of_opened opened]
  dsimp only
  rw [vacant]

theorem reserve_of_unusable {error : SystemError} (opened : channels.directory = some path)
    (absolute : path.isAbsolute = true) (unreserved : channels.path? channel = none)
    (unusable : checkPath (path.join (Path.ofText channel.fileName)) = .error error) :
    channels.reserve host channel files = (.error error, channels, files) := by
  rw [reserve, unreserved, openDirectory_of_opened opened]
  dsimp only
  rw [discard_of_unusable (Path.join_ne_nil absolute _) unusable]

theorem path?_of_empty (empty : channels.reserved = []) (channel : Channel) :
    channels.path? channel = none := by
  rw [path?, empty, List.lookup_nil]

/-- A further reservation leaves the paths of the others. -/
theorem path?_append_of_ne (channels : Channels) {channel other : Channel}
    (differs : other ≠ channel) (path : Path) :
    Channels.path? { channels with reserved := channels.reserved ++ [(channel, path)] } other =
      channels.path? other := by
  have apart : (other == channel) = false := by simpa using differs
  simp [path?, List.lookup_append, List.lookup_cons, apart]

/-- The first reservation makes the private directory. -/
theorem reserve_of_unopened (unopened : channels.directory = none)
    (empty : channels.reserved = []) (channel : Channel) :
    channels.reserve host channel files =
      match host.createScratch channels.parent files with
      | .error error => (.error error, channels, files)
      | .ok (path, made) =>
          { channels with directory := some path }.reserve host channel made := by
  rw [reserve, path?_of_empty empty]
  dsimp only
  rw [openDirectory, unopened]
  dsimp only
  cases made : host.createScratch channels.parent files with
  | error error => rfl
  | ok created =>
      obtain ⟨path, made⟩ := created
      dsimp only
      rw [reserve, path?_of_empty (by exact empty)]
      rfl

end

/-- Channels with a private directory are as their slots say. -/
structure Kept (base : Location) (slots : Slots) (path : Path) (place : Location)
    (surroundings files : FileTree) (channels : Channels) : Prop where
  directory : channels.directory = some path
  closed : surroundings.Closed
  absolute : path.isAbsolute = true
  leads : surroundings.resolveName base path = .ok place
  grafted : Grafted place surroundings files
  distinct : (channels.reserved.map Prod.fst).Nodup
  named : ∀ entry ∈ channels.reserved,
    entry.2 = path.join (Path.ofText entry.1.fileName)
  reserved : ∀ channel, (channels.path? channel).isSome = (slots channel).reserved
  usable : ∀ channel, slots channel ≠ .unused →
    checkPath (path.join (Path.ofText channel.fileName)) = .ok ()
  stands : ∀ channel, files.get? (place ++ [Path.ofText channel.fileName]) =
    (slots channel).content.asEntry

theorem mem_of_path? {channels : Channels} {channel : Channel} {path : Path}
    (found : channels.path? channel = some path) : (channel, path) ∈ channels.reserved := by
  obtain ⟨before, after, split, -⟩ := List.lookup_eq_some_iff.1 found
  simp [split]

namespace Kept

variable {host : Host} {base : Location} {slots : Slots} {path : Path} {place : Location}
variable {surroundings files : FileTree} {channels : Channels}

theorem owned (kept : channels.Kept base slots path place surroundings files) :
    channels.Owned base surroundings files :=
  .opened path place kept.directory kept.absolute kept.leads kept.grafted kept.named

theorem reaches (kept : channels.Kept base slots path place surroundings files)
    {channel : Channel}
    (usable : checkPath (path.join (Path.ofText channel.fileName)) = .ok ()) :
    files.Reaches base (path.join (Path.ofText channel.fileName))
      (place ++ [Path.ofText channel.fileName]) :=
  kept.grafted.reaches kept.closed kept.absolute kept.leads channel.isProper_fileName
    channel.length_fileName_le usable

/-- A reserved channel has the path of its file, and the path can be used. -/
theorem of_path? (kept : channels.Kept base slots path place surroundings files)
    {channel : Channel} {found : Path} (reserved : channels.path? channel = some found) :
    found = path.join (Path.ofText channel.fileName) ∧
      (slots channel).reserved = true ∧
      checkPath (path.join (Path.ofText channel.fileName)) = .ok () := by
  have isReserved : (slots channel).reserved = true := by
    rw [← kept.reserved channel, reserved]
    rfl
  refine ⟨kept.named _ (mem_of_path? reserved), isReserved, kept.usable channel ?_⟩
  intro unused
  rw [unused] at isReserved
  cases isReserved

theorem path?_eq (kept : channels.Kept base slots path place surroundings files)
    (channel : Channel) :
    channels.path? channel =
      if (slots channel).reserved then some (path.join (Path.ofText channel.fileName))
      else none := by
  have reserved := kept.reserved channel
  cases found : channels.path? channel with
  | none =>
      rw [found] at reserved
      simp [← reserved]
  | some other =>
      obtain ⟨rfl, isReserved, -⟩ := kept.of_path? found
      simp [isReserved]

theorem entryFor_eq (kept : channels.Kept base slots path place surroundings files)
    (channel : Channel) :
    Session.entryFor base ⟨some channels, files, surroundings⟩ channel =
      (slots channel).content.asEntry := by
  have opened : Session.directory? ⟨some channels, files, surroundings⟩ = some path :=
    kept.directory
  rw [Session.entryFor, opened, Option.bind_some]
  cases usable : checkPath (path.join (Path.ofText channel.fileName)) with
  | ok => rw [(kept.reaches usable).named, ← kept.stands channel]
  | error error =>
      have unused : slots channel = .unused := by
        by_contra used
        rw [kept.usable channel used] at usable
        cases usable
      rw [unused, resolveName, usable]
      rfl

/-- The slot of one channel changes when its reservation and the entry at its path do,
and nothing else. -/
theorem update (kept : channels.Kept base slots path place surroundings files)
    {channel : Channel} {slot : Slot} {later : Channels} {left : FileTree}
    (directory : later.directory = channels.directory)
    (distinct : (later.reserved.map Prod.fst).Nodup)
    (named : ∀ entry ∈ later.reserved, entry.2 = path.join (Path.ofText entry.1.fileName))
    (usable : checkPath (path.join (Path.ofText channel.fileName)) = .ok ())
    (reserved : (later.path? channel).isSome = slot.reserved)
    (others : ∀ other, other ≠ channel → later.path? other = channels.path? other)
    (here : left.get? (place ++ [Path.ofText channel.fileName]) = slot.content.asEntry)
    (elsewhere : ∀ location, location ≠ place ++ [Path.ofText channel.fileName] →
      left.get? location = files.get? location) :
    later.Kept base (Function.update slots channel slot) path place surroundings left := by
  have outside : Grafted place surroundings left := by
    refine ⟨kept.grafted.vacant, ?_, ?_⟩
    · rw [elsewhere place (by simp), kept.grafted.made]
    · intro location apart
      rw [elsewhere location, kept.grafted.outside location apart]
      rintro rfl
      exact apart (List.prefix_append _ _)
  refine ⟨directory.trans kept.directory, kept.closed, kept.absolute, kept.leads, outside,
    distinct, named, ?_, ?_, ?_⟩
  · intro other
    by_cases same : other = channel
    · subst same
      rw [Function.update_self, reserved]
    · rw [Function.update_of_ne same, others other same, kept.reserved]
  · intro other used
    by_cases same : other = channel
    · rwa [same]
    · rw [Function.update_of_ne same] at used
      exact kept.usable other used
  · intro other
    by_cases same : other = channel
    · subst same
      rw [Function.update_self, here]
    · rw [Function.update_of_ne same, elsewhere, kept.stands]
      intro equal
      have names := List.append_cancel_left equal
      exact same (Channel.fileName_inj (List.singleton_inj.1 names))

/-- A reservation is added when there is nothing at the path of the channel any more. -/
theorem add (kept : channels.Kept base slots path place surroundings files)
    {channel : Channel} {left : FileTree} (unreserved : channels.path? channel = none)
    (usable : checkPath (path.join (Path.ofText channel.fileName)) = .ok ())
    (here : left.get? (place ++ [Path.ofText channel.fileName]) = none)
    (elsewhere : ∀ location, location ≠ place ++ [Path.ofText channel.fileName] →
      left.get? location = files.get? location) :
    Kept base (Function.update slots channel ⟨true, .nothing⟩) path place surroundings left
      { channels with
        reserved := channels.reserved ++
          [(channel, path.join (Path.ofText channel.fileName))] } := by
  have absent : channel ∉ channels.reserved.map Prod.fst := by
    intro member
    obtain ⟨entry, inside, same⟩ := List.mem_map.1 member
    have differs := List.lookup_eq_none_iff.1 unreserved entry inside
    simp [same] at differs
  refine kept.update rfl ?distinct ?named usable ?reserved ?others here elsewhere
  case distinct =>
      rw [List.map_append]
      refine List.nodup_append.2 ⟨kept.distinct, List.nodup_singleton _, ?_⟩
      rintro other member _ new rfl
      obtain rfl : other = channel := List.mem_singleton.1 new
      exact absent member
  case named =>
      intro entry member
      rcases List.mem_append.1 member with earlier | new
      · exact kept.named entry earlier
      · rw [List.mem_singleton.1 new]
  case reserved => simp [path?, List.lookup_append]
  case others => exact fun other differs => channels.path?_append_of_ne differs _

/-- Reserving a channel in the private directory. -/
theorem reserve (kept : channels.Kept host.directory slots path place surroundings files)
    (channel : Channel) {result : Except SystemError Path} {later : Channels}
    {left : FileTree}
    (reserves : channels.reserve host channel files = (result, later, left)) :
    slots.Allows (.reserve channel) (.reserved result) ∧
      later.Kept host.directory (slots.after (.reserve channel) (.reserved result)) path
        place surroundings left := by
  unfold Channels.reserve at reserves
  cases found : channels.path? channel with
  | some known =>
      obtain ⟨-, isReserved, -⟩ := kept.of_path? found
      rw [found] at reserves
      cases reserves
      have same : (slots channel).reserve = slots channel := by
        rw [Slot.reserve, isReserved, if_pos rfl]
      refine ⟨⟨fun _ => ⟨known, rfl⟩, fun unreserved => ?_⟩, ?_⟩
      · rw [unreserved] at isReserved
        cases isReserved
      · rw [Slots.after, same, Function.update_eq_self]
        exact kept
  | none =>
      have unreserved : (slots channel).reserved = false := by
        rw [← kept.reserved channel, found]
        rfl
      have failed (error : SystemError) :
          slots.Allows (.reserve channel) (.reserved (.error error)) := by
        refine ⟨fun isReserved => ?_, fun _ => ⟨error, rfl⟩⟩
        rw [unreserved] at isReserved
        cases isReserved
      rw [found, openDirectory_of_opened kept.directory] at reserves
      dsimp only at reserves
      cases usable : checkPath (path.join (Path.ofText channel.fileName)) with
      | error error =>
          rw [discard_of_unusable (Path.join_ne_nil kept.absolute _) usable] at reserves
          cases reserves
          exact ⟨failed error, kept⟩
      | ok =>
          have changes := (kept.reaches usable).discard_changes (kept.stands channel)
          generalize files.discard host.directory
            (path.join (Path.ofText channel.fileName)) = discarded at changes reserves
          generalize clears : (slots channel).content.discard = cleared at changes
          cases changes with
          | refused error =>
              cases reserves
              exact ⟨failed error, kept⟩
          | @done content left here elsewhere =>
              cases reserves
              obtain ⟨rfl, free⟩ := Content.discard_eq_ok clears
              refine ⟨⟨fun _ => ⟨_, rfl⟩, fun directory => ?_⟩, ?_⟩
              · exact absurd (by rw [directory]) free
              · rw [Slots.after, Slot.reserve, unreserved, if_neg Bool.false_ne_true]
                exact kept.add found usable here elsewhere

/-- A channel is forgotten. -/
theorem forget (kept : channels.Kept base slots path place surroundings files)
    {channel : Channel} {content : Content} {left : FileTree}
    (usable : checkPath (path.join (Path.ofText channel.fileName)) = .ok ())
    (here : left.get? (place ++ [Path.ofText channel.fileName]) = content.asEntry)
    (elsewhere : ∀ location, location ≠ place ++ [Path.ofText channel.fileName] →
      left.get? location = files.get? location) :
    (channels.forget channel).Kept base (Function.update slots channel ⟨false, content⟩)
      path place surroundings left := by
  refine kept.update rfl ?distinct ?named usable ?reserved ?others here elsewhere
  case distinct =>
      have fewer : (channels.forget channel).reserved.Sublist channels.reserved :=
        List.filter_sublist
      exact (fewer.map Prod.fst).nodup kept.distinct
  case named => exact fun entry member => kept.named entry (List.mem_filter.1 member).1
  case reserved => rw [path?_forget_self, Option.isSome_none]
  case others => exact fun other differs => path?_forget_of_ne channels differs

/-- Consuming a channel. -/
theorem consume (kept : channels.Kept base slots path place surroundings files)
    (channel : Channel) {result : Except SystemError (Option Bytes)} {later : Channels}
    {left : FileTree}
    (consumes : channels.consume base channel files = (result, later, left)) :
    result = (slots channel).taken ∧
      later.Kept base (Function.update slots channel (slots channel).consume) path place
        surroundings left := by
  unfold Channels.consume at consumes
  have reservation := kept.reserved channel
  cases found : channels.path? channel with
  | none =>
      rw [found] at consumes reservation
      cases consumes
      have unreserved : (slots channel).reserved = false := reservation.symm
      rw [Slot.taken, Slot.consume, unreserved, if_neg Bool.false_ne_true,
        if_neg Bool.false_ne_true, Function.update_eq_self]
      exact ⟨rfl, kept⟩
  | some known =>
      obtain ⟨rfl, isReserved, usable⟩ := kept.of_path? found
      have stands := kept.stands channel
      have changes := (kept.reaches usable).discard_changes stands
      rw [found] at consumes
      dsimp only at consumes
      rw [(kept.reaches usable).read_eq stands] at consumes
      rw [Slot.taken, Slot.consume, isReserved, if_pos rfl, if_pos rfl]
      generalize (slots channel).content = content at stands changes consumes ⊢
      generalize files.discard base (path.join (Path.ofText channel.fileName)) = discarded
        at changes consumes
      cases content with
      | directory =>
          cases changes
          cases consumes
          exact ⟨rfl, kept.forget usable stands fun _ _ => rfl⟩
      | nothing =>
          cases changes with
          | done here elsewhere =>
              cases consumes
              exact ⟨rfl, kept.forget usable here elsewhere⟩
      | data bytes =>
          cases changes with
          | done here elsewhere =>
              cases consumes
              exact ⟨rfl, kept.forget usable here elsewhere⟩

/-- An attempt of the backend at the path of a channel. -/
theorem attempt (kept : channels.Kept base slots path place surroundings files)
    {channel : Channel} {change : Content → Except SystemError Content}
    {result : Except SystemError FileTree}
    (usable : checkPath (path.join (Path.ofText channel.fileName)) = .ok ())
    (changes : Changes files (place ++ [Path.ofText channel.fileName])
      (change (slots channel).content) result) :
    result.map (fun _ => ()) = (change (slots channel).content).map (fun _ => ()) ∧
      channels.Kept base (Function.update slots channel ((slots channel).attempt change))
        path place surroundings (result.toOption.getD files) := by
  have reserved := kept.reserved channel
  rw [Slot.attempt]
  generalize change (slots channel).content = changed at changes ⊢
  cases changes with
  | done here elsewhere =>
      exact ⟨rfl, kept.update rfl kept.distinct kept.named usable reserved
        (fun _ _ => rfl) here elsewhere⟩
  | refused error =>
      exact ⟨rfl, kept.update rfl kept.distinct kept.named usable reserved
        (fun _ _ => rfl) (kept.stands channel) fun _ _ => rfl⟩

end Kept

/-- A private directory that has just been made is kept. -/
theorem kept_of_createScratch {host : Host} {channels : Channels}
    {surroundings files made : FileTree} {path : Path} (empty : channels.reserved = [])
    (closed : surroundings.Closed) (same : files.SameEntries surroundings)
    (done : host.createScratch channels.parent files = .ok (path, made)) :
    ∃ place, Kept host.directory Slots.unused path place surroundings made
      { channels with directory := some path } := by
  obtain ⟨absolute, place, leads, grafted⟩ := Host.createScratch_eq_ok done
  refine ⟨place, rfl, closed, absolute, ?_, .of_sameEntries same grafted, ?_, ?_, ?_, ?_, ?_⟩
  · rwa [← same.resolveName_eq]
  · simp [empty]
  · simp [empty]
  · intro channel
    simp [path?, empty, Slots.unused, Slot.unused]
  · exact fun channel used => absurd rfl used
  · intro channel
    exact Host.createScratch_empty (closed.of_sameEntries same) done leads _

theorem reserved_openDirectory (host : Host) (channels : Channels) (files : FileTree) :
    (channels.openDirectory host files).2.1.reserved = channels.reserved := by
  unfold openDirectory
  split
  · rfl
  · split <;> rfl

/-- A channel that has been reserved has the path that was answered. -/
theorem path?_of_reserve (host : Host) (channels : Channels) (channel : Channel)
    (files : FileTree) {path : Path} {later : Channels} {left : FileTree}
    (reserves : channels.reserve host channel files = (.ok path, later, left)) :
    later.path? channel = some path := by
  unfold Channels.reserve at reserves
  split at reserves
  · next known =>
      cases reserves
      exact known
  · next missing =>
      have kept := channels.reserved_openDirectory host files
      generalize channels.openDirectory host files = reached at kept reserves
      obtain ⟨result, opened, made⟩ := reached
      cases result with
      | error error => cases reserves
      | ok directory =>
          dsimp only at kept reserves
          split at reserves
          · cases reserves
          · cases reserves
            rw [path?] at missing
            simp [path?, kept, List.lookup_append, missing]

end Channels
end StatelessPgp
