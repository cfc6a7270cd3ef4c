import StatelessPgp.Proofs.Channels.Refinement
import StatelessPgp.Proofs.Concurrent.Scratch

/-!
# Private directories side by side

Each of several owners of channels has a private directory of its own.  What one of them
does changes nothing outside its directory, and so the channels of the others stay what
their slots say.
-/

namespace StatelessPgp

open FileTree

/-- An attempt that fails at a directory keeps every entry in a directory. -/
theorem FileTree.Changes.closed {tree : FileTree} {place : Location} {name : Name}
    {content : Content} {change : Content → Except SystemError Content}
    {result : Except SystemError FileTree} (closed : tree.Closed)
    (made : tree.get? place = some .directory)
    (stands : tree.get? (place ++ [name]) = content.asEntry)
    (refuses : ∃ error, change .directory = .error error)
    (changes : Changes tree (place ++ [name]) (change content) result) :
    (result.toOption.getD tree).Closed := by
  generalize changed : change content = after at changes
  cases changes with
  | refused error => exact closed
  | @done later left here elsewhere =>
      have file : ¬ tree.IsDirectory (place ++ [name]) := by
        rintro (found | found) <;> rw [stands] at found
        · cases content <;> cases found
          obtain ⟨error, refused⟩ := refuses
          cases changed.symm.trans refused
        · cases content <;> cases found
      change left.Closed
      intro location child found
      by_cases same : location ++ [child] = place ++ [name]
      · obtain ⟨rfl, -⟩ := List.append_inj' same rfl
        exact .inl ((elsewhere location (by simp)).trans made)
      · rw [elsewhere _ same] at found
        have parent := closed location child found
        have differs : location ≠ place ++ [name] := by
          rintro rfl
          exact file parent
        rwa [IsDirectory, elsewhere location differs]

theorem FileTree.Closed.prune {tree : FileTree} (closed : tree.Closed) (place : Location) :
    (tree.prune place).Closed := by
  intro location child found
  have apart : ¬ place <+: location ++ [child] := by
    intro below
    exact found (tree.get?_prune_of_prefix below (by simp))
  have above : ¬ place <+: location := fun below =>
    apart (below.trans (List.prefix_append location [child]))
  rw [tree.get?_prune_of_not_prefix apart] at found
  rw [IsDirectory, tree.get?_prune_of_not_prefix above]
  exact closed location child found

/-- What reserving a channel yields, where its file has this path. -/
def Slots.reserving (slots : Slots) (channel : Channel) (path : Path) :
    Except SystemError Path :=
  if (slots channel).reserved then .ok path
  else
    match checkPath path with
    | .error error => .error error
    | .ok () => (slots channel).content.discard.map fun _ => path

namespace Channels

theorem files_consume (channels : Channels) (base : Location) (channel : Channel)
    (files : FileTree) :
    (channels.consume base channel files).2.2 =
      match channels.path? channel with
      | none => files
      | some path => (files.discard base path).toOption.getD files := by
  rw [consume]
  cases channels.path? channel with
  | none => rfl
  | some path =>
      dsimp only
      cases files.discard base path <;> rfl

namespace Kept

variable {host : Host} {base : Location} {slots : Slots} {path : Path} {place : Location}
variable {surroundings files : FileTree} {channels : Channels}

theorem closed_discard (kept : channels.Kept base slots path place surroundings files)
    (closed : files.Closed) (channel : Channel) :
    ((files.discard base (path.join (Path.ofText channel.fileName))).toOption.getD
      files).Closed := by
  cases usable : checkPath (path.join (Path.ofText channel.fileName)) with
  | error error =>
      rw [discard_of_unusable (Path.join_ne_nil kept.absolute _) usable]
      exact closed
  | ok =>
      have stands := kept.stands channel
      exact ((kept.reaches usable).discard_changes stands).closed closed kept.grafted.made
        stands ⟨_, rfl⟩

/-- Reserving a channel in a private directory: what it yields is decided by the slot and
the path. -/
theorem reserve_eq (kept : channels.Kept host.directory slots path place surroundings files)
    (closed : files.Closed) (channel : Channel) :
    (channels.reserve host channel files).1 =
        slots.reserving channel (path.join (Path.ofText channel.fileName)) ∧
      (channels.reserve host channel files).2.2.Closed := by
  have empties := kept.closed_discard closed channel
  rw [Channels.reserve, Slots.reserving, ← kept.reserved channel]
  cases found : channels.path? channel with
  | some known =>
      obtain ⟨rfl, -, -⟩ := kept.of_path? found
      exact ⟨rfl, closed⟩
  | none =>
      rw [openDirectory_of_opened kept.directory]
      dsimp only
      cases usable : checkPath (path.join (Path.ofText channel.fileName)) with
      | error error =>
          rw [discard_of_unusable (Path.join_ne_nil kept.absolute _) usable]
          exact ⟨rfl, closed⟩
      | ok =>
          have changes := (kept.reaches usable).discard_changes (kept.stands channel)
          generalize files.discard host.directory
            (path.join (Path.ofText channel.fileName)) = discarded at changes empties ⊢
          generalize (slots channel).content.discard = cleared at changes ⊢
          cases changes <;> exact ⟨rfl, empties⟩

end Kept
end Channels

/-- What channels are like whose private directory, if any, has a given name: there is
none and no slot is in use, or it is in its place and they are as their slots say. -/
inductive Channels.Nested (host : Host) (config : Config) (first : FileTree) (name : Name)
    (slots : Slots) (channels : Channels) (surroundings files : FileTree) : Prop where
  | unopened (unused : slots = .unused) (new : channels = .new config.scratchParent)
      (closed : surroundings.Closed) (same : files.SameEntries surroundings)
  | opened {place : Location} (nest : Nest host config first name place)
      (kept : channels.Kept host.directory slots (host.scratch config name) place
        surroundings files)

/-- Files in which at most private directories have been added. -/
structure Expanded (host : Host) (config : Config) (first files : FileTree) : Prop where
  inside : first.IsPart files
  same : (¬ ∃ root, Host.Opens host config first root) → files.SameEntries first

namespace Channels.Nested

variable {host : Host} {config : Config} {first surroundings files left : FileTree}
variable {name : Name} {slots : Slots} {channels later : Channels} {channel : Channel}

theorem path?_eq (nested : channels.Nested host config first name slots surroundings files)
    (channel : Channel) :
    channels.path? channel =
      if (slots channel).reserved then
        some ((host.scratch config name).join (Path.ofText channel.fileName))
      else none := by
  cases nested with
  | unopened unused new closed same =>
      subst unused new
      rfl
  | opened nest kept => exact kept.path?_eq channel

theorem reserve {root : Location} (opens : Host.Opens host config first root)
    (expanded : Expanded host config first files)
    (nested : channels.Nested host config first name slots surroundings files)
    (closed : files.Closed)
    (offered : channels.directory = none → host.offers config files name = true)
    {result : Except SystemError Path}
    (reserves : channels.reserve (host.drawing name) channel files = (result, later, left)) :
    result = slots.reserving channel
        ((host.scratch config name).join (Path.ofText channel.fileName)) ∧
      later.Nested host config first name
        (slots.after (.reserve channel) (.reserved result)) surroundings left ∧
      left.Closed ∧ later.directory = some (host.scratch config name) := by
  have inPlace {slots : Slots} {channels : Channels} {files : FileTree} {place : Location}
      (nest : Nest host config first name place) (closed : files.Closed)
      (kept : channels.Kept (host.drawing name).directory slots (host.scratch config name)
        place surroundings files)
      (reserves : channels.reserve (host.drawing name) channel files =
        (result, later, left)) :
      result = slots.reserving channel
          ((host.scratch config name).join (Path.ofText channel.fileName)) ∧
        later.Nested host config first name
          (slots.after (.reserve channel) (.reserved result)) surroundings left ∧
        left.Closed ∧ later.directory = some (host.scratch config name) := by
    have yields := kept.reserve_eq closed channel
    obtain ⟨-, after⟩ := kept.reserve channel reserves
    rw [reserves] at yields
    exact ⟨yields.1, .opened nest after, yields.2, after.directory⟩
  cases nested with
  | opened nest kept => exact inPlace nest closed kept reserves
  | unopened unused new around same =>
      subst unused new
      have drawn := offered rfl
      obtain ⟨vacant, made⟩ := opens.createScratch expanded.inside drawn
      have nest : Nest host config first name (root ++ [name]) := by
        refine ⟨Host.isScratchName_of_offers drawn, ⟨root, opens, rfl⟩, ?_⟩
        by_contra found
        obtain ⟨entry, present⟩ := Option.ne_none_iff_exists'.1 found
        rw [expanded.inside _ _ present] at vacant
        cases vacant
      obtain ⟨place, kept⟩ := kept_of_createScratch
        (rfl : (Channels.new config.scratchParent).reserved = []) around same made
      have arrives := expanded.inside.resolveName_eq nest.leads
      rw [same.resolveName_eq] at arrives
      obtain rfl : place = root ++ [name] := Except.ok.inj (kept.leads.symm.trans arrives)
      rw [reserve_of_unopened rfl rfl, Channels.new, made] at reserves
      refine inPlace nest ?_ kept reserves
      have free : files.get? (root ++ [name]) = Content.nothing.asEntry := vacant
      have added : Changes files (root ++ [name]) (Content.makeDirectory .nothing)
          (.ok (files.set (root ++ [name]) .directory)) :=
        Reaches.sets files nest.ne_nil rfl
      exact added.closed closed (expanded.inside _ _ opens.made) free ⟨_, rfl⟩

/-- Reserving a channel where no scratch directory can be made. -/
theorem reserve_refused (refused : ¬ ∃ root, Host.Opens host config first root)
    (nested : channels.Nested host config first name slots surroundings files)
    {error : SystemError}
    (fails : (host.drawing name).createScratch config.scratchParent files = .error error) :
    channels.reserve (host.drawing name) channel files = (.error error, channels, files) := by
  cases nested with
  | opened nest kept =>
      obtain ⟨root, opens, -⟩ := nest.inside
      exact absurd ⟨root, opens⟩ refused
  | unopened unused new around same =>
      subst new
      rw [reserve_of_unopened rfl rfl, Channels.new, fails]

theorem consume (nested : channels.Nested host config first name slots surroundings files)
    (closed : files.Closed) {result : Except SystemError (Option Bytes)}
    (consumes : channels.consume host.directory channel files = (result, later, left)) :
    result = (slots channel).taken ∧
      later.Nested host config first name
        (Function.update slots channel (slots channel).consume) surroundings left ∧
      left.Closed := by
  cases nested with
  | unopened unused new around same =>
      subst unused new
      rw [Channels.consume, path?_of_empty rfl] at consumes
      cases consumes
      refine ⟨rfl, .unopened ?_ rfl around same, closed⟩
      exact Function.update_eq_self channel Slots.unused
  | opened nest kept =>
      have remains := channels.files_consume host.directory channel files
      obtain ⟨taken, after⟩ := kept.consume channel consumes
      refine ⟨taken, .opened nest after, ?_⟩
      rw [consumes] at remains
      change left = _ at remains
      rw [remains]
      cases found : channels.path? channel with
      | none => exact closed
      | some known =>
          obtain ⟨rfl, -, -⟩ := kept.of_path? found
          exact kept.closed_discard closed channel

/-- Whatever is attempted at the path of a reserved channel, if it fails at a
directory. -/
theorem attempt (nested : channels.Nested host config first name slots surroundings files)
    (closed : files.Closed) {path : Path} (reserved : channels.path? channel = some path)
    {change : Content → Except SystemError Content} {result : Except SystemError FileTree}
    (refuses : ∃ error, change .directory = .error error)
    (changes : ∀ place, files.Reaches host.directory path place →
      files.get? place = (slots channel).content.asEntry →
        Changes files place (change (slots channel).content) result) :
    channels.Nested host config first name
        (Function.update slots channel ((slots channel).attempt change)) surroundings
        (result.toOption.getD files) ∧
      (result.toOption.getD files).Closed := by
  cases nested with
  | unopened unused new around same =>
      subst new
      rw [path?_of_empty rfl] at reserved
      cases reserved
  | opened nest kept =>
      obtain ⟨rfl, -, usable⟩ := kept.of_path? reserved
      have stands := kept.stands channel
      have changed := changes _ (kept.reaches usable) stands
      exact ⟨.opened nest (kept.attempt usable changed).2,
        changed.closed closed kept.grafted.made stands refuses⟩

theorem release (nested : channels.Nested host config first name slots surroundings files) :
    Channels.Nested host config first name .unused (.new config.scratchParent) surroundings
        (channels.release host.directory files) ∧
      (channels.release host.directory files).Closed := by
  have owned : surroundings.Closed ∧ channels.Owned host.directory surroundings files := by
    cases nested with
    | unopened unused new around same =>
        subst new
        exact ⟨around, .unopened rfl rfl same⟩
    | opened nest kept => exact ⟨kept.closed, kept.owned⟩
  have restored := owned.2.release owned.1
  exact ⟨.unopened rfl rfl owned.1 restored, owned.1.of_sameEntries restored⟩

/-- Files differ from the surroundings in the private directory at most. -/
theorem differs (nested : channels.Nested host config first name slots surroundings files)
    {location : Location} (differs : files.get? location ≠ surroundings.get? location) :
    channels.directory ≠ none ∧
      ∃ place, Nest host config first name place ∧ place <+: location ∧
        surroundings.get? location = none := by
  cases nested with
  | unopened unused new around same => exact absurd (same location) differs
  | @opened place nest kept =>
      have opened : channels.directory ≠ none := by
        rw [kept.directory]
        nofun
      have below : place <+: location := by
        by_contra apart
        exact differs (kept.grafted.outside location apart)
      exact ⟨opened, place, nest, below, kept.closed.get?_eq_none kept.grafted.vacant below⟩

/-- Channels stay what their slots say when files change elsewhere. -/
theorem elsewhere (nested : channels.Nested host config first name slots surroundings files)
    (inside : first.IsPart left) (closed : left.Closed) (vacates : first.Closed)
    (within : ∀ place, channels.directory ≠ none → Nest host config first name place →
      ∀ location, place <+: location → left.get? location = files.get? location) :
    ∃ around, channels.Nested host config first name slots around left := by
  cases nested with
  | unopened unused new around same => exact ⟨left, .unopened unused new closed fun _ => rfl⟩
  | @opened place nest kept =>
      have opened : channels.directory ≠ none := by
        rw [kept.directory]
        nofun
      have keeps := within place opened nest
      have around : first.IsPart (left.prune place) := by
        intro location entry found
        have apart : ¬ place <+: location := by
          intro below
          rw [vacates.get?_eq_none nest.vacant below] at found
          cases found
        rw [left.get?_prune_of_not_prefix apart]
        exact inside location entry found
      refine ⟨left.prune place, .opened nest { kept with
        closed := closed.prune place
        leads := around.resolveName_eq nest.leads
        grafted := ⟨?_, ?_, ?_⟩
        stands := fun channel =>
          (keeps _ (List.prefix_append _ _)).trans (kept.stands channel) }⟩
      · exact left.get?_prune_of_prefix (List.prefix_refl place) nest.ne_nil
      · rw [keeps place (List.prefix_refl place), kept.grafted.made]
      · exact fun location apart => (left.get?_prune_of_not_prefix apart).symm

end Channels.Nested

section

variable {ι : Type} {host : Host} {config : Config}
variable {first files left surroundings : FileTree} {names : ι → Name}
variable {channels : ι → Channels} {later : Channels} {i j : ι} {slots after : Slots}

/-- All owners of channels have their private directories in the same files, and
otherwise the files are what they were at first. -/
structure Housed (host : Host) (config : Config) (first : FileTree) (names : ι → Name)
    (channels : ι → Channels) (files : FileTree) : Prop where
  closed : files.Closed
  nested : ∀ i, ∃ slots surroundings,
    (channels i).Nested host config first (names i) slots surroundings files
  apart : ∀ i j, (channels i).directory ≠ none → (channels j).directory ≠ none →
    names i = names j → i = j
  outside : ∀ location, files.get? location ≠ first.get? location →
    ∃ i place, (channels i).directory ≠ none ∧ Nest host config first (names i) place ∧
      place <+: location

namespace Housed

theorem start (closed : first.Closed) (names : ι → Name) :
    Housed host config first names (fun _ => .new config.scratchParent) first where
  closed := closed
  nested _ := ⟨.unused, first, .unopened rfl rfl closed fun _ => rfl⟩
  apart _ _ opened := absurd rfl opened
  outside _ differs := absurd rfl differs

theorem expanded (housed : Housed host config first names channels files)
    (closed : first.Closed) : Expanded host config first files where
  inside := by
    intro location entry found
    by_contra differs
    obtain ⟨i, place, -, nest, below⟩ := housed.outside location (found ▸ differs)
    rw [closed.get?_eq_none nest.vacant below] at found
    cases found
  same := by
    intro refused location
    by_contra differs
    obtain ⟨i, place, -, nest, -⟩ := housed.outside location differs
    obtain ⟨root, opens, -⟩ := nest.inside
    exact refused ⟨root, opens⟩

/-- Without private directories, the files are what they were at first. -/
theorem sameEntries (housed : Housed host config first names channels files)
    (released : ∀ i, (channels i).directory = none) : files.SameEntries first := by
  intro location
  by_contra differs
  obtain ⟨i, place, opened, -⟩ := housed.outside location differs
  exact opened (released i)

section

variable (housed : Housed host config first names channels files)
variable (vacates : first.Closed) (closed : left.Closed)
variable (before : (channels i).Nested host config first (names i) slots surroundings files)
variable (became : later.Nested host config first (names i) after surroundings left)

include before became

/-- One owner changes files in its private directory at most. -/
theorem changes {location : Location} (differs : left.get? location ≠ files.get? location) :
    ((channels i).directory ≠ none ∨ later.directory ≠ none) ∧
      ∃ place, Nest host config first (names i) place ∧ place <+: location := by
  by_cases same : files.get? location = surroundings.get? location
  · rw [same] at differs
    obtain ⟨opened, place, nest, below, -⟩ := became.differs differs
    exact ⟨.inr opened, place, nest, below⟩
  · obtain ⟨opened, place, nest, below, -⟩ := before.differs same
    exact ⟨.inl opened, place, nest, below⟩

/-- When the private directory is gone, nothing is left at its place. -/
theorem vacated (vacates : first.Closed) (opened : (channels i).directory ≠ none)
    (released : later.directory = none) {place location : Location}
    (nest : Nest host config first (names i) place) (below : place <+: location) :
    left.get? location = first.get? location := by
  cases became with
  | opened _ kept => cases kept.directory.symm.trans released
  | unopened _ _ _ same =>
      cases before with
      | unopened _ new =>
          rw [new] at opened
          exact absurd rfl opened
      | opened there kept =>
          obtain rfl := there.unique nest
          rw [same location, kept.closed.get?_eq_none kept.grafted.vacant below,
            vacates.get?_eq_none nest.vacant below]

include housed

/-- No other owner has a private directory of the same name, for the name was free. -/
theorem names_ne (differs : j ≠ i)
    (mine : (channels i).directory ≠ none ∨ later.directory ≠ none)
    (theirs : (channels j).directory ≠ none) : names i ≠ names j := by
  intro same
  by_cases opened : (channels i).directory = none
  · rcases mine with held | made
    · exact held opened
    cases before with
    | opened _ kept => cases kept.directory.symm.trans opened
    | unopened _ _ _ equal =>
        cases became with
        | unopened _ new =>
            rw [new] at made
            exact made rfl
        | @opened place nest kept =>
            -- The place was vacant when the directory was made, so none can stand there.
            have free := (equal place).trans kept.grafted.vacant
            obtain ⟨_, _, other⟩ := housed.nested j
            cases other with
            | unopened _ new =>
                rw [new] at theirs
                exact theirs rfl
            | opened there held =>
                rw [← same] at there
                obtain rfl := nest.unique there
                cases free.symm.trans held.grafted.made
  · exact differs (housed.apart j i theirs opened same.symm)

include vacates

theorem isPart : first.IsPart left := by
  intro location entry found
  by_contra differs
  have present := (housed.expanded vacates).inside location entry found
  have moved : left.get? location ≠ files.get? location := present ▸ differs
  obtain ⟨-, place, nest, below⟩ := changes before became moved
  rw [vacates.get?_eq_none nest.vacant below] at found
  cases found

include closed

/-- The channels of another owner stay as they are. -/
theorem others (differs : j ≠ i) {slots : Slots} {around : FileTree}
    (nested : (channels j).Nested host config first (names j) slots around files) :
    ∃ around, (channels j).Nested host config first (names j) slots around left := by
  refine nested.elsewhere (housed.isPart vacates before became) closed vacates ?_
  intro place opened nest location below
  by_contra changed
  obtain ⟨mine, there, other, within⟩ := changes before became changed
  exact housed.names_ne before became differs mine opened (other.apart nest within below)

theorem step [DecidableEq ι] :
    Housed host config first names (Function.update channels i later) left where
  closed := closed
  nested j := by
    by_cases same : j = i
    · subst same
      rw [Function.update_self]
      exact ⟨_, _, became⟩
    · rw [Function.update_of_ne same]
      obtain ⟨slots, _, nested⟩ := housed.nested j
      exact ⟨slots, housed.others vacates closed before became same nested⟩
  apart first second := by
    intro left right same
    by_cases one : first = i
    · by_cases two : second = i
      · rw [one, two]
      · subst one
        rw [Function.update_self] at left
        rw [Function.update_of_ne two] at right
        exact absurd same (housed.names_ne before became two (.inr left) right)
    · rw [Function.update_of_ne one] at left
      by_cases two : second = i
      · subst two
        rw [Function.update_self] at right
        exact absurd same.symm (housed.names_ne before became one (.inr right) left)
      · rw [Function.update_of_ne two] at right
        exact housed.apart first second left right same
  outside location differs := by
    -- The place that was changed is that of an owner from before, or of this one.
    have owner : ∃ j place, ((channels j).directory ≠ none ∨
          j = i ∧ later.directory ≠ none) ∧ Nest host config first (names j) place ∧
        place <+: location := by
      by_cases same : left.get? location = files.get? location
      · obtain ⟨j, place, opened, nest, below⟩ := housed.outside location (same ▸ differs)
        exact ⟨j, place, .inl opened, nest, below⟩
      · obtain ⟨opened, place, nest, below⟩ := changes before became same
        exact ⟨i, place, opened.imp_right fun made => ⟨rfl, made⟩, nest, below⟩
    obtain ⟨j, place, opened, nest, below⟩ := owner
    refine ⟨j, place, ?_, nest, below⟩
    by_cases same : j = i
    · subst same
      rw [Function.update_self]
      intro released
      rcases opened with held | ⟨-, made⟩
      · exact differs (vacated before became vacates held released nest below)
      · exact made released
    · rw [Function.update_of_ne same]
      exact opened.resolve_right fun mine => same mine.1

end

end Housed

end

end StatelessPgp
