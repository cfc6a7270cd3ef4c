import StatelessPgp.Proofs.Concurrent.Nests

/-!
# Channels among others and alone

The channels of an invocation among others are paired with those of the same invocation
alone: both are as the same slots say.  Whatever is done with both has the same effect on
the slots, and yields the same up to the private directory.
-/

namespace StatelessPgp

open FileTree

variable {host : Host} {config : Config} {first surroundings files remains : FileTree}
variable {name other : Name} {slots : Slots} {channels others : Channels} {channel : Channel}

theorem Slots.reserving_congr (slots : Slots) (channel : Channel) {path other : Path}
    (same : checkPath path = checkPath other) :
    (∃ error, slots.reserving channel path = .error error ∧
        slots.reserving channel other = .error error) ∨
      slots.reserving channel path = .ok path ∧ slots.reserving channel other = .ok other := by
  rw [reserving, reserving, same]
  split
  · exact .inr ⟨rfl, rfl⟩
  · cases checkPath other with
    | error error => exact .inl ⟨error, rfl, rfl⟩
    | ok =>
        cases (slots channel).content.discard with
        | error error => exact .inl ⟨error, rfl, rfl⟩
        | ok content => exact .inr ⟨rfl, rfl⟩

namespace Channels.Nested

/-- Files with one private directory alone. -/
theorem expanded (nested : channels.Nested host config first name slots first files) :
    Expanded host config first files := by
  cases nested with
  | unopened _ _ _ same =>
      refine ⟨fun location entry found => ?_, fun _ => same⟩
      rwa [same location]
  | opened nest kept =>
      refine ⟨fun location entry found => kept.grafted.get?_of_some kept.closed found,
        fun refused => ?_⟩
      obtain ⟨root, opens, -⟩ := nest.inside
      exact absurd ⟨root, opens⟩ refused

theorem sameEntries (nested : channels.Nested host config first name slots surroundings files)
    (unopened : channels.directory = none) : files.SameEntries surroundings := by
  cases nested with
  | unopened _ _ _ same => exact same
  | opened _ kept => cases kept.directory.symm.trans unopened

theorem isScratchName
    (nested : channels.Nested host config first name slots surroundings files)
    (offered : channels.directory = none → host.offers config files name = true) :
    isScratchName name = true := by
  cases nested with
  | unopened _ new =>
      subst new
      exact Host.isScratchName_of_offers (offered rfl)
  | opened nest _ => exact nest.scratch

end Channels.Nested

/-- A name that is free was free at first. -/
theorem Expanded.offers (expanded : Expanded host config first files)
    (offered : host.offers config files name = true) :
    host.offers config first name = true := by
  by_cases opens : ∃ root, Host.Opens host config first root
  · obtain ⟨root, opens⟩ := opens
    have scratch := Host.isScratchName_of_offers offered
    obtain ⟨vacant, -⟩ := opens.createScratch expanded.inside offered
    have free : first.get? (root ++ [name]) = none := by
      by_contra found
      obtain ⟨entry, present⟩ := Option.ne_none_iff_exists'.1 found
      cases (expanded.inside _ _ present).symm.trans vacant
    rw [Host.offers, scratch, opens.leads name scratch]
    simp [free]
  · rwa [← Host.offers_of_sameEntries (expanded.same opens)]

namespace Channels

/-- Channels among others and alone, which may have private directories of other
names. -/
structure Paired (host : Host) (config : Config) (first : FileTree) (name other : Name)
    (surroundings files remains : FileTree) (channels others : Channels) : Prop where
  agree : ∃ slots, channels.Nested host config first name slots surroundings files ∧
    others.Nested host config first other slots first remains
  opened : channels.directory = none ↔ others.directory = none
  closed : files.Closed
  loneClosed : remains.Closed

/-- What reserving a channel yields on both sides: the same error, errors that differ in
the directory that could not be made, or the path in each directory. -/
inductive AlikeReservations (first second : Path) (channel : Channel) :
    Except SystemError Path → Except SystemError Path → Prop where
  | refused (error : SystemError) :
      AlikeReservations first second channel (.error error) (.error error)
  | unmade (error : SystemError) :
      AlikeReservations first second channel
        (.error (error.createdAt (Text.quotedBytes first)))
        (.error (error.createdAt (Text.quotedBytes second)))
  | reserved :
      AlikeReservations first second channel
        (.ok (first.join (Path.ofText channel.fileName)))
        (.ok (second.join (Path.ofText channel.fileName)))

namespace Paired

variable (paired :
  channels.Paired host config first name other surroundings files remains others)

include paired

/-- The invocation alone may draw its name when the other one may. -/
theorem offers (expanded : Expanded host config first files)
    (renames : host.offers config first name = true → host.offers config first other = true)
    (offered : channels.directory = none → host.offers config files name = true)
    (unopened : others.directory = none) : host.offers config remains other = true := by
  obtain ⟨slots, -, lone⟩ := paired.agree
  rw [Host.offers_of_sameEntries (lone.sameEntries unopened)]
  exact renames (expanded.offers (offered (paired.opened.2 unopened)))

theorem reserve (vacates : first.Closed) (expanded : Expanded host config first files)
    (offered : channels.directory = none → host.offers config files name = true)
    (lonely : others.directory = none → host.offers config remains other = true)
    {result answer : Except SystemError Path} {later mine : Channels} {left behind : FileTree}
    (reserves : channels.reserve (host.drawing name) channel files = (result, later, left))
    (mirrors : others.reserve (host.drawing other) channel remains = (answer, mine, behind)) :
    AlikeReservations (host.scratch config name) (host.scratch config other) channel result
        answer ∧
      later.Paired host config first name other surroundings left behind mine := by
  obtain ⟨slots, nested, lone⟩ := paired.agree
  by_cases opens : ∃ root, Host.Opens host config first root
  · obtain ⟨root, opens⟩ := opens
    have usable := host.checkPath_scratch_join config (nested.isScratchName offered)
      (lone.isScratchName lonely) channel
    obtain ⟨yields, kept, closed, made⟩ :=
      nested.reserve opens expanded paired.closed offered reserves
    obtain ⟨answers, loneKept, loneClosed, loneMade⟩ :=
      lone.reserve opens lone.expanded paired.loneClosed lonely mirrors
    have both : later.directory = none ↔ mine.directory = none := by
      simp [made, loneMade]
    rcases slots.reserving_congr channel usable with ⟨error, fails, refuses⟩ | ⟨works, agrees⟩
    · obtain rfl := yields.trans fails
      obtain rfl := answers.trans refuses
      exact ⟨.refused error, ⟨_, kept, loneKept⟩, both, closed, loneClosed⟩
    · obtain rfl := yields.trans works
      obtain rfl := answers.trans agrees
      exact ⟨.reserved, ⟨_, kept, loneKept⟩, both, closed, loneClosed⟩
  · -- No private directory can be made, and so there is none on either side.
    obtain ⟨error, fails⟩ := (host.opens_or_refuses config vacates).resolve_left opens
    have unopened {name : Name} {channels : Channels} {surroundings files : FileTree}
        (nested : channels.Nested host config first name slots surroundings files) :
        channels.directory = none := by
      cases nested with
      | unopened _ new => rw [new, Channels.new]
      | opened nest _ =>
          obtain ⟨root, made, -⟩ := nest.inside
          exact absurd ⟨root, made⟩ opens
    have unmade := fails files name (expanded.same opens) (offered (unopened nested))
    have loneUnmade := fails remains other (lone.sameEntries (unopened lone))
      (lonely (unopened lone))
    cases (nested.reserve_refused opens unmade).symm.trans reserves
    cases (lone.reserve_refused opens loneUnmade).symm.trans mirrors
    exact ⟨.unmade error, paired⟩

theorem consume {result answer : Except SystemError (Option Bytes)} {later mine : Channels}
    {left behind : FileTree}
    (consumes : channels.consume host.directory channel files = (result, later, left))
    (mirrors : others.consume host.directory channel remains = (answer, mine, behind)) :
    result = answer ∧
      later.Paired host config first name other surroundings left behind mine := by
  obtain ⟨slots, nested, lone⟩ := paired.agree
  obtain ⟨taken, kept, closed⟩ := nested.consume paired.closed consumes
  obtain ⟨loneTaken, loneKept, loneClosed⟩ := lone.consume paired.loneClosed mirrors
  have directory := (Channels.consume_forgets consumes).1
  have loneDirectory := (Channels.consume_forgets mirrors).1
  refine ⟨taken.trans loneTaken.symm, ⟨_, kept, loneKept⟩, ?_, closed, loneClosed⟩
  rw [directory, loneDirectory]
  exact paired.opened

/-- Whatever is attempted at the paths of a reserved channel, if it fails at a
directory. -/
theorem attempt {path : Path} (reserved : channels.path? channel = some path)
    {change : Content → Except SystemError Content}
    {attempted : FileTree → Path → Except SystemError FileTree}
    (refuses : ∃ error, change .directory = .error error)
    (changes : ∀ {tree path place content}, tree.Reaches host.directory path place →
      tree.get? place = content.asEntry →
        Changes tree place (change content) (attempted tree path)) :
    ∃ there, others.path? channel = some there ∧
      channels.Paired host config first name other surroundings
        ((attempted files path).toOption.getD files)
        ((attempted remains there).toOption.getD remains) others := by
  obtain ⟨slots, nested, lone⟩ := paired.agree
  have isReserved : (slots channel).reserved = true := by
    rw [nested.path?_eq] at reserved
    by_contra unreserved
    rw [if_neg unreserved] at reserved
    cases reserved
  have mirrored := lone.path?_eq channel
  rw [isReserved, if_pos rfl] at mirrored
  obtain ⟨kept, closed⟩ := nested.attempt paired.closed reserved refuses
    fun place reaches stands => changes reaches stands
  obtain ⟨loneKept, loneClosed⟩ := lone.attempt paired.loneClosed mirrored refuses
    fun place reaches stands => changes reaches stands
  exact ⟨_, mirrored, ⟨_, kept, loneKept⟩, paired.opened, closed, loneClosed⟩

theorem release :
    Channels.Paired host config first name other surroundings
      (channels.release host.directory files) (others.release host.directory remains)
      (.new config.scratchParent) (.new config.scratchParent) := by
  obtain ⟨slots, nested, lone⟩ := paired.agree
  obtain ⟨released, closed⟩ := nested.release
  obtain ⟨loneReleased, loneClosed⟩ := lone.release
  exact ⟨⟨_, released, loneReleased⟩, Iff.rfl, closed, loneClosed⟩

end Paired
end Channels

end StatelessPgp
