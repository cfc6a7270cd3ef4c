import StatelessPgp.Proofs.Channels.Slots

/-!
# Sessions refine slots

A step of a session gives an answer that the slots allow and changes them as they
foresee.  By induction on a history, the slots after its trace say what its session is
like, and with that the later fate of every reservation.
-/

namespace StatelessPgp

open FileTree

namespace Slots

theorem ofTrace_concat (trace : Session.Trace) (event : Event) (answer : Answer) :
    ofTrace (trace ++ [(event, answer)]) = (ofTrace trace).after event answer := by
  rw [ofTrace, List.foldl_append]
  rfl

/-- The slot of a channel that an event is not about stays the same until the release. -/
theorem after_of_ne (slots : Slots) {event : Event} (answer : Answer) {channel : Channel}
    (differs : event.channel? ≠ some channel) (keeps : event ≠ .drop) :
    slots.after event answer channel = slots channel := by
  have apart (other : Channel) (about : event.channel? = some other) : channel ≠ other := by
    rintro rfl
    exact differs about
  cases event with
  | reserve other =>
      cases answer with
      | reserved result =>
          cases result with
          | ok path => exact Function.update_of_ne (apart other rfl) _ _
          | error error => rfl
      | _ => rfl
  | path other => rfl
  | consume other => exact Function.update_of_ne (apart other rfl) _ _
  | drop => exact absurd rfl keeps
  | write other bytes => exact Function.update_of_ne (apart other rfl) _ _
  | makeDirectory other => exact Function.update_of_ne (apart other rfl) _ _
  | elsewhere => rfl

end Slots

namespace Channels

variable {host : Host} {channels : Channels} {files : FileTree}

theorem directory_reserve {channel : Channel} {result : Except SystemError Path}
    {later : Channels} {left : FileTree} {path : Path}
    (opened : channels.directory = some path)
    (reserves : channels.reserve host channel files = (result, later, left)) :
    later.directory = some path := by
  rw [reserve, openDirectory_of_opened opened] at reserves
  split at reserves
  · cases reserves
    exact opened
  · dsimp only at reserves
    split at reserves <;> cases reserves <;> exact opened

/-- Consuming a channel forgets it and keeps the private directory. -/
theorem consume_forgets {base : Location} {channel : Channel}
    {result : Except SystemError (Option Bytes)} {later : Channels} {left : FileTree}
    (consumes : channels.consume base channel files = (result, later, left)) :
    later.directory = channels.directory ∧ later.path? channel = none := by
  unfold consume at consumes
  split at consumes
  · next missing =>
      cases consumes
      exact ⟨rfl, missing⟩
  · dsimp only at consumes
    split at consumes <;> cases consumes <;>
      exact ⟨rfl, path?_forget_self channels channel⟩

end Channels

namespace Session

/-- A session is as its slots say. -/
inductive Sound (host : Host) : Slots → Session → Prop where
  | released {files surroundings : FileTree} (closed : surroundings.Closed)
      (same : files.SameEntries surroundings) :
      Sound host .unused ⟨none, files, surroundings⟩
  | unopened {channels : Channels} {files surroundings : FileTree}
      (directory : channels.directory = none) (empty : channels.reserved = [])
      (closed : surroundings.Closed) (same : files.SameEntries surroundings) :
      Sound host .unused ⟨some channels, files, surroundings⟩
  | opened {slots : Slots} {path : Path} {place : Location} {channels : Channels}
      {files surroundings : FileTree}
      (kept : channels.Kept host.directory slots path place surroundings files) :
      Sound host slots ⟨some channels, files, surroundings⟩

variable {host : Host} {slots : Slots} {session next : Session}
variable {event : Event} {answer : Answer}

theorem Sound.owned {channels : Channels} {files surroundings : FileTree}
    (sound : Sound host slots ⟨some channels, files, surroundings⟩) :
    surroundings.Closed ∧ channels.Owned host.directory surroundings files := by
  cases sound with
  | unopened directory empty closed same => exact ⟨closed, .unopened directory empty same⟩
  | opened kept => exact ⟨kept.closed, kept.owned⟩

theorem Sound.path?_eq (sound : Sound host slots session) (channel : Channel) :
    session.path? channel =
      if (slots channel).reserved then
        session.directory?.map fun path => path.join (Path.ofText channel.fileName)
      else none := by
  cases sound with
  | released => rfl
  | unopened directory empty => exact Channels.path?_of_empty empty channel
  | opened kept =>
      rw [path?, directory?, Option.bind_some, Option.bind_some, kept.directory]
      exact kept.path?_eq channel

theorem Sound.isSome_path? (sound : Sound host slots session) (channel : Channel) :
    (session.path? channel).isSome = (slots channel).reserved := by
  cases sound with
  | released => rfl
  | unopened directory empty =>
      rw [path?, Option.bind_some, Channels.path?_of_empty empty]
      rfl
  | opened kept => exact kept.reserved channel

theorem Sound.entryFor_eq (sound : Sound host slots session) (channel : Channel) :
    session.entryFor host.directory channel = (slots channel).content.asEntry := by
  cases sound with
  | released => rfl
  | unopened directory =>
      rw [entryFor, directory?, Option.bind_some, directory]
      rfl
  | opened kept => exact kept.entryFor_eq channel

/-- Whatever is attempted at the path of a reserved channel changes its slot alone. -/
theorem Sound.attempt {channels : Channels} {files surroundings : FileTree}
    {channel : Channel} {path : Path} {change : Content → Except SystemError Content}
    {result : Except SystemError FileTree}
    (sound : Sound host slots ⟨some channels, files, surroundings⟩)
    (reserved : channels.path? channel = some path)
    (changes : ∀ place, files.Reaches host.directory path place →
      files.get? place = (slots channel).content.asEntry →
        Changes files place (change (slots channel).content) result) :
    (slots channel).reserved = true ∧
      result.map (fun _ => ()) = (change (slots channel).content).map (fun _ => ()) ∧
      Sound host (Function.update slots channel ((slots channel).attempt change))
        ⟨some channels, result.toOption.getD files, surroundings⟩ := by
  cases sound with
  | unopened directory empty =>
      rw [Channels.path?_of_empty empty] at reserved
      cases reserved
  | opened kept =>
      obtain ⟨rfl, isReserved, usable⟩ := kept.of_path? reserved
      obtain ⟨same, after⟩ :=
        kept.attempt usable (changes _ (kept.reaches usable) (kept.stands channel))
      exact ⟨isReserved, same, .opened after⟩

/-- Slots stay right when others change files elsewhere. -/
theorem Elsewhere.sound (changed : Elsewhere host.directory session next)
    (sound : Sound host slots session) : Sound host slots next := by
  obtain ⟨channels, files, surroundings⟩ := next
  cases sound with
  | released =>
      cases changed with
      | unopened unopened same closed all =>
          cases same
          exact .released closed all
      | around directory place opened => cases opened
  | unopened directory empty =>
      cases changed with
      | unopened unopened same closed all =>
          cases same
          exact .unopened directory empty closed all
      | around path place opened => cases directory.symm.trans opened
  | opened kept =>
      cases changed with
      | unopened unopened => cases kept.directory.symm.trans unopened
      | around path place opened same closed led leads vacant within beyond =>
          cases same
          cases kept.directory.symm.trans opened
          cases kept.leads.symm.trans led
          exact .opened { kept with
            closed := closed
            leads := leads
            grafted := ⟨vacant, (within _ (List.prefix_refl _)).trans kept.grafted.made,
              beyond⟩
            stands := fun channel =>
              (within _ (List.prefix_append _ _)).trans (kept.stands channel) }

/-- Every step is allowed by the slots and keeps them right. -/
theorem Step.sound (step : Step host session event answer next)
    (sound : Sound host slots session) :
    slots.Allows event answer ∧ Sound host (slots.after event answer) next := by
  cases step with
  | @reserve channels later files left surroundings channel result reserves =>
      cases sound with
      | unopened directory empty closed same =>
          rw [Channels.reserve_of_unopened directory empty] at reserves
          cases made : host.createScratch channels.parent files with
          | error error =>
              rw [made] at reserves
              cases reserves
              exact ⟨⟨nofun, fun _ => ⟨error, rfl⟩⟩, .unopened directory empty closed same⟩
          | ok created =>
              rw [made] at reserves
              obtain ⟨place, kept⟩ := Channels.kept_of_createScratch empty closed same made
              obtain ⟨allowed, after⟩ := kept.reserve channel reserves
              exact ⟨allowed, .opened after⟩
      | opened kept =>
          obtain ⟨allowed, after⟩ := kept.reserve channel reserves
          exact ⟨allowed, .opened after⟩
  | path channel => exact ⟨sound.isSome_path? channel, sound⟩
  | @consume channels later files left surroundings channel result consumes =>
      cases sound with
      | unopened directory empty closed same =>
          rw [Channels.consume, Channels.path?_of_empty empty] at consumes
          cases consumes
          have unchanged : Slots.unused.after (.consume channel) (.consumed (.ok none)) =
              .unused := Function.update_eq_self channel Slots.unused
          rw [unchanged]
          exact ⟨rfl, .unopened directory empty closed same⟩
      | opened kept =>
          obtain ⟨allowed, after⟩ := kept.consume channel consumes
          exact ⟨allowed, .opened after⟩
  | drop =>
      obtain ⟨closed, owned⟩ := sound.owned
      exact ⟨trivial, .released closed (owned.release closed)⟩
  | write reserved bytes writes =>
      subst writes
      obtain ⟨isReserved, same, after⟩ := sound.attempt reserved
        fun place reaches stands => reaches.write_changes stands bytes
      exact ⟨⟨isReserved, same⟩, after⟩
  | makeDirectory reserved makes =>
      subst makes
      obtain ⟨isReserved, same, after⟩ := sound.attempt reserved
        fun place reaches stands => reaches.makeDirectory_changes stands
      exact ⟨⟨isReserved, same⟩, after⟩
  | elsewhere changed => exact ⟨trivial, changed.sound sound⟩

theorem History.sound {parent : ScratchParent} {files : FileTree} {trace : Trace}
    (closed : files.Closed) (history : History host (.start parent files) trace session) :
    Sound host (.ofTrace trace) session := by
  induction history with
  | start => exact .unopened rfl rfl closed fun _ => rfl
  | step history step hypothesis =>
      rw [Slots.ofTrace_concat]
      exact (step.sound hypothesis).2

/-- What slots say about a session. -/
structure Represents (host : Host) (slots : Slots) (session : Session) : Prop where
  distinct : ∀ channels, session.channels = some channels →
    (channels.reserved.map Prod.fst).Nodup
  named : ∀ channels, session.channels = some channels → ∀ entry ∈ channels.reserved,
    ∃ directory, channels.directory = some directory ∧
      entry.2 = directory.join (Path.ofText entry.1.fileName)
  apart : ∀ first second path, session.path? first = some path →
    session.path? second = some path → first = second
  reserved : ∀ channel, (session.path? channel).isSome = (slots channel).reserved
  stands : ∀ channel,
    session.entryFor host.directory channel = (slots channel).content.asEntry
  owned : ∀ channels, session.channels = some channels →
    channels.Owned host.directory session.surroundings session.files
  restored : session.channels = none → session.files.SameEntries session.surroundings

/-- What a step leaves as it is, and what it is sure to do. -/
structure Moves (host : Host) (event : Event) (answer : Answer)
    (before after : Session) : Prop where
  others : ∀ channel, event.channel? ≠ some channel → event ≠ .drop →
    after.path? channel = before.path? channel ∧
      after.entryFor host.directory channel = before.entryFor host.directory channel
  directory : event = .drop ∨ after.directory? = before.directory? ∨
    before.directory? = none ∧ ∃ channel, event = .reserve channel
  surroundings : event ≠ .elsewhere → after.surroundings = before.surroundings
  reserved : ∀ channel path, event = .reserve channel → answer = .reserved (.ok path) →
    after.path? channel = some path
  consumed : ∀ channel, event = .consume channel → after.path? channel = none
  untouched : ∀ channel, event = .consume channel → before.path? channel = none →
    after = before
  dropped : event = .drop → after.channels = none

theorem Sound.represents (sound : Sound host slots session) :
    session.Represents host slots := by
  have owned (channels : Channels) (live : session.channels = some channels) :
      channels.Owned host.directory session.surroundings session.files := by
    obtain ⟨_, files, surroundings⟩ := session
    cases live
    exact sound.owned.2
  refine ⟨?distinct, ?named, ?apart, sound.isSome_path?, sound.entryFor_eq, owned, ?restored⟩
  case distinct =>
      intro channels live
      cases sound with
      | released => cases live
      | unopened directory empty =>
          cases live
          simp [empty]
      | opened kept =>
          cases live
          exact kept.distinct
  case named =>
      intro channels live entry member
      cases owned channels live with
      | unopened _ empty =>
          rw [empty] at member
          cases member
      | opened path _ directory _ _ _ named => exact ⟨path, directory, named entry member⟩
  case apart =>
      intro first second path left right
      rw [sound.path?_eq] at left right
      split at left
      · split at right
        · obtain ⟨directory, opened, rfl⟩ := Option.map_eq_some_iff.1 left
          obtain ⟨_, same, joined⟩ := Option.map_eq_some_iff.1 right
          cases opened.symm.trans same
          exact Channel.fileName_inj (Path.join_inj first.isProper_fileName
            second.isProper_fileName joined.symm)
        · cases right
      · cases left
  case restored =>
      intro released
      cases sound with
      | released closed same => exact same
      | unopened => cases released
      | opened => cases released

theorem Sound.unused_of_directory (sound : Sound host slots session)
    (unopened : session.directory? = none) : slots = .unused := by
  cases sound with
  | released => rfl
  | unopened => rfl
  | opened kept => cases kept.directory.symm.trans unopened

/-- Only a reservation makes a private directory, and only when there is none. -/
theorem Step.directory (step : Step host session event answer next) :
    event = .drop ∨ next.directory? = session.directory? ∨
      session.directory? = none ∧ ∃ channel, event = .reserve channel := by
  cases step with
  | @reserve channels later files left surroundings channel result reserves =>
      right
      cases opened : channels.directory with
      | none => exact .inr ⟨opened, channel, rfl⟩
      | some path =>
          exact .inl ((Channels.directory_reserve opened reserves).trans opened.symm)
  | consume consumes => exact .inr (.inl (Channels.consume_forgets consumes).1)
  | drop => exact .inl rfl
  | elsewhere changed =>
      have same : next.channels = session.channels := by
        cases changed <;> assumption
      rw [directory?, directory?, same]
      exact .inr (.inl rfl)
  | _ => exact .inr (.inl rfl)

theorem Step.moves (step : Step host session event answer next)
    (sound : Sound host slots session) : Moves host event answer session next := by
  have after := (step.sound sound).2
  refine ⟨?others, step.directory, ?surroundings, ?reserved, ?consumed, ?untouched, ?dropped⟩
  case others =>
      intro channel differs keeps
      have same := slots.after_of_ne answer differs keeps
      refine ⟨?_, by rw [after.entryFor_eq, sound.entryFor_eq, same]⟩
      rw [after.path?_eq, sound.path?_eq, same]
      rcases step.directory with drop | kept | ⟨unopened, -⟩
      · exact absurd drop keeps
      · rw [kept]
      · rw [sound.unused_of_directory unopened]
        rfl
  case surroundings =>
      intro inside
      cases step with
      | elsewhere => exact absurd rfl inside
      | _ => rfl
  case reserved =>
      rintro channel path rfl rfl
      cases step with
      | reserve reserves => exact Channels.path?_of_reserve host _ channel _ reserves
  case consumed =>
      rintro channel rfl
      cases step with
      | consume consumes => exact (Channels.consume_forgets consumes).2
  case untouched =>
      rintro channel rfl unreserved
      cases step with
      | @consume channels later files left surroundings _ result consumes =>
          have missing : channels.path? channel = none := unreserved
          rw [Channels.consume, missing] at consumes
          cases consumes
          rfl
  case dropped =>
      rintro rfl
      cases step
      rfl

/-- The private directory stays the same until the release, which is final. -/
theorem History.directory {trace : Trace} {later : Session}
    (history : History host session trace later) :
    (∀ path, session.directory? = some path →
        later.channels = none ∨ later.directory? = some path) ∧
      (session.channels = none → later.channels = none) := by
  induction history with
  | start => exact ⟨fun _ opened => .inr opened, id⟩
  | @step trace middle next event answer history step hypothesis =>
      have final (released : middle.channels = none) : next.channels = none := by
        cases step with
        | elsewhere changed => cases changed <;> simp_all
        | _ => cases released
      refine ⟨fun path opened => ?_, fun released => final (hypothesis.2 released)⟩
      rcases hypothesis.1 path opened with released | kept
      · exact .inl (final released)
      · rcases step.directory with rfl | same | ⟨unopened, -⟩
        · cases step
          exact .inl rfl
        · exact .inr (same.trans kept)
        · cases unopened.symm.trans kept

/-- Without a change elsewhere the surroundings are the files from before. -/
theorem History.surroundings {trace : Trace} {later : Session}
    (history : History host session trace later)
    (undisturbed : ∀ answer, (Event.elsewhere, answer) ∉ trace) :
    later.surroundings = session.surroundings := by
  induction history with
  | start => rfl
  | @step trace middle next event answer history step hypothesis =>
      have same : next.surroundings = middle.surroundings := by
        cases step with
        | elsewhere => exact absurd (by simp) (undisturbed .done)
        | _ => rfl
      rw [same, hypothesis fun answer member =>
        undisturbed answer (List.mem_append_left _ member)]

theorem lastWritten_concat (channel : Channel) (trace : Trace) (event : Event)
    (answer : Answer) :
    lastWritten channel (trace ++ [(event, answer)]) =
      written channel (lastWritten channel trace) event answer := by
  rw [lastWritten, List.foldl_append]
  rfl

/-- A reserved channel holds what was last written to it, unless there is a directory
instead. -/
structure Pending (channel : Channel) (trace : Trace) (slot : Slot) : Prop where
  reserved : slot.reserved = true
  content : slot.content = .directory ∨
    slot.content = (lastWritten channel trace).elim .nothing .data

theorem Pending.write {channel : Channel} {trace : Trace} {slot : Slot}
    (pending : Pending channel trace slot) (bytes : Bytes) :
    Pending channel (trace ++ [(.write channel bytes,
        .attempted ((slot.content.write bytes).map fun _ => ()))])
      (slot.attempt (Content.write bytes)) := by
  refine ⟨pending.reserved, ?_⟩
  rw [lastWritten_concat, Slot.attempt]
  rcases pending.content with blocked | holds
  · rw [blocked]
    exact .inl rfl
  · -- Whatever the file held before, it now holds the new data.
    rw [holds]
    right
    cases lastWritten channel trace <;>
      simp [Content.write, written, Except.map, Except.toOption]

theorem Pending.makeDirectory {channel : Channel} {trace : Trace} {slot : Slot}
    (pending : Pending channel trace slot) (answer : Answer) :
    Pending channel (trace ++ [(.makeDirectory channel, answer)])
      (slot.attempt Content.makeDirectory) := by
  refine ⟨pending.reserved, ?_⟩
  rw [lastWritten_concat, Slot.attempt]
  rcases pending.content with blocked | holds
  · rw [blocked]
    exact .inl rfl
  · rw [holds]
    cases lastWritten channel trace with
    | none => exact .inl rfl
    | some bytes => exact .inr rfl

/-- An event that is not about a channel leaves it pending. -/
theorem Pending.beside {channel : Channel} {trace : Trace} {slot : Slot}
    (pending : Pending channel trace slot) (differs : event.channel? ≠ some channel)
    (answer : Answer) : Pending channel (trace ++ [(event, answer)]) slot := by
  have same : lastWritten channel (trace ++ [(event, answer)]) = lastWritten channel trace := by
    rw [lastWritten_concat, written.eq_def]
    split
    · next other bytes _ => exact if_neg fun same => differs (congrArg some same)
    · rfl
  exact ⟨pending.reserved, by rw [same]; exact pending.content⟩

/-- Until it is consumed, a reserved channel goes on holding what was last written. -/
theorem Pending.after {channel : Channel} {trace : Trace}
    (pending : Pending channel trace (slots channel)) (allowed : slots.Allows event answer)
    (waits : event ≠ .consume channel) (keeps : event ≠ .drop) :
    Pending channel (trace ++ [(event, answer)]) (slots.after event answer channel) := by
  by_cases about : event.channel? = some channel
  · cases event with
    | reserve other =>
        cases about
        have same : slots.after (.reserve channel) answer channel = slots channel := by
          cases answer with
          | reserved result =>
              cases result with
              | ok path =>
                  rw [Slots.after, Function.update_self, Slot.reserve, pending.reserved,
                    if_pos rfl]
              | error error => rfl
          | _ => rfl
        rw [same]
        exact ⟨pending.reserved, by rw [lastWritten_concat]; exact pending.content⟩
    | path other => exact ⟨pending.reserved, by rw [lastWritten_concat]; exact pending.content⟩
    | consume other =>
        cases about
        exact absurd rfl waits
    | drop => exact absurd rfl keeps
    | write other bytes =>
        cases about
        cases answer with
        | attempted result =>
            obtain ⟨-, rfl⟩ := allowed
            rw [Slots.after, Function.update_self]
            exact pending.write bytes
        | _ => exact allowed.elim
    | makeDirectory other =>
        cases about
        rw [Slots.after, Function.update_self]
        exact pending.makeDirectory answer
    | elsewhere => cases about
  · rw [slots.after_of_ne answer about keeps]
    exact pending.beside about answer

/-- After a reservation that found the channel unreserved there is nothing at its
path. -/
theorem Step.vacates {channel : Channel} {path : Path}
    (step : Step host session (.reserve channel) (.reserved (.ok path)) next)
    (sound : Sound host slots session) (unreserved : session.path? channel = none) :
    ∃ later, Sound host later next ∧ later channel = ⟨true, .nothing⟩ := by
  refine ⟨_, (step.sound sound).2, ?_⟩
  have free : (slots channel).reserved = false := by
    rw [← sound.isSome_path?, unreserved]
    rfl
  rw [Slots.after, Function.update_self, Slot.reserve, free, if_neg Bool.false_ne_true]

theorem Step.pending {channel : Channel} {path : Path}
    (step : Step host session (.reserve channel) (.reserved (.ok path)) next)
    (sound : Sound host slots session) (unreserved : session.path? channel = none) :
    ∃ later, Sound host later next ∧ Pending channel [] (later channel) := by
  obtain ⟨later, after, vacant⟩ := step.vacates sound unreserved
  exact ⟨later, after, by rw [vacant], .inr (by rw [vacant]; rfl)⟩

theorem History.pending {channel : Channel} {between : Trace} {later : Session}
    (history : History host session between later) (sound : Sound host slots session)
    (pending : Pending channel [] (slots channel))
    (waits : ∀ answer, (Event.consume channel, answer) ∉ between) :
    later.channels = none ∨
      ∃ slots, Sound host slots later ∧ Pending channel between (slots channel) := by
  induction history with
  | start => exact .inr ⟨slots, sound, pending⟩
  | @step trace middle next event answer history step hypothesis =>
      have before := hypothesis fun answer member =>
        waits answer (List.mem_append_left _ member)
      rcases before with released | ⟨slots, sound, pending⟩
      · exact .inl ((History.start.step step).directory.2 released)
      · by_cases drop : event = .drop
        · exact .inl ((step.moves sound).dropped drop)
        · obtain ⟨allowed, after⟩ := step.sound sound
          refine .inr ⟨_, after, pending.after allowed ?_ drop⟩
          rintro rfl
          exact waits answer (by simp)

/-- What is consumed is what was last written since the reservation, and then it is
gone; only a directory at the path is in the way. -/
theorem Pending.consumed {channel : Channel} {trace : Trace}
    {result : Except SystemError (Option Bytes)}
    (pending : Pending channel trace (slots channel)) (sound : Sound host slots session)
    (step : Step host session (.consume channel) (.consumed result) next) :
    session.entryFor host.directory channel = some .directory ∧ result = .error .isDirectory ∨
      result = .ok (lastWritten channel trace) ∧
        next.entryFor host.directory channel = none := by
  obtain ⟨yields, after⟩ := step.sound sound
  rw [sound.entryFor_eq, after.entryFor_eq, Slots.after, Function.update_self, Slot.consume]
  change result = (slots channel).taken at yields
  rw [Slot.taken, pending.reserved, if_pos rfl] at yields
  rw [pending.reserved, if_pos rfl]
  rcases pending.content with blocked | holds
  · rw [blocked] at yields ⊢
    exact .inl ⟨rfl, yields⟩
  · rw [holds] at yields ⊢
    right
    cases last : lastWritten channel trace <;> rw [last] at yields <;> exact ⟨yields, rfl⟩

end Session

open Session

/-- Side channels refine a table with one slot for each channel, over every session:
the table says what stands reserved and what there is at each path, every step answers
as the table allows and touches one channel only, a reservation is consumed with what was
last written since, there is at most one private directory, and after the release the
files are the surroundings again. -/
theorem channels_refine_slots {host : Host} {parent : ScratchParent} {files : FileTree}
    {trace : Session.Trace} {session : Session} (closed : files.Closed)
    (history : History host (.start parent files) trace session) :
    session.Represents host (.ofTrace trace) ∧
      (∀ event answer next, Step host session event answer next →
        (Slots.ofTrace trace).Allows event answer ∧
          Moves host event answer session next) ∧
      (∀ more later, History host session more later →
        (∀ path, session.directory? = some path →
          later.channels = none ∨ later.directory? = some path) ∧
        (session.channels = none → later.channels = none)) ∧
      (∀ channel path reserved between before result after,
        session.path? channel = none →
        Step host session (.reserve channel) (.reserved (.ok path)) reserved →
        History host reserved between before →
        (∀ answer, (.consume channel, answer) ∉ between) →
        Step host before (.consume channel) (.consumed result) after →
        before.entryFor host.directory channel = some .directory ∧
            result = .error .isDirectory ∨
          result = .ok (lastWritten channel between) ∧
            after.entryFor host.directory channel = none) ∧
      ((∀ answer, (.elsewhere, answer) ∉ trace) → session.surroundings = files) := by
  have sound := history.sound closed
  refine ⟨sound.represents, ?steps, fun more later further => further.directory, ?consumes,
    history.surroundings⟩
  case steps => exact fun event answer next step => ⟨(step.sound sound).1, step.moves sound⟩
  case consumes =>
      intro channel path reserved between before result after unreserved reserves waiting
        waits consumes
      obtain ⟨slots, sound, pending⟩ := reserves.pending sound unreserved
      rcases waiting.pending sound pending waits with released | ⟨slots, sound, pending⟩
      · cases consumes
        cases released
      · exact pending.consumed sound consumes

theorem signing_consumes_written_bytes :
    let host := Host.bare .empty []
    let parent := ScratchParent.within (Path.ofText "/")
    let directory := Path.ofText "sop-scratch"
    let path := Path.ofText "/sop-scratch/micalg-out"
    let bytes := Path.ofText "pgp-sha256"
    let channels : Channels := ⟨parent, some (Path.ofText "/sop-scratch"), [(.micAlg, path)]⟩
    let made : FileTree := ⟨[([directory], .directory)]⟩
    let reserved : Session := ⟨some channels, made, ⟨[]⟩⟩
    let file := [directory, Path.ofText "micalg-out"]
    let written : Session := ⟨some channels, made.set file (.file bytes), ⟨[]⟩⟩
    (⟨[]⟩ : FileTree).Closed ∧
      Step host (.start parent ⟨[]⟩) (.reserve .micAlg) (.reserved (.ok path)) reserved ∧
      Step host reserved (.write .micAlg bytes) (.attempted (.ok ())) written ∧
      ∃ result consumed, Step host written (.consume .micAlg) (.consumed result) consumed ∧
        result = .ok (some bytes) ∧ consumed.entryFor host.directory .micAlg = none := by
  intro host parent directory path bytes channels made reserved file written
  have closed : (⟨[]⟩ : FileTree).Closed := by
    intro location name found
    exact absurd (FileTree.get?_of_ne_root _ (by simp)) found
  have reserves : Step host (.start parent ⟨[]⟩) (.reserve .micAlg) (.reserved (.ok path))
      reserved := .reserve rfl
  have stored : made.write host.directory path bytes = .ok (made.set file (.file bytes)) := rfl
  have writes : Step host reserved (.write .micAlg bytes) (.attempted (.ok ())) written :=
    .write rfl bytes stored
  have consumes : Step host written (.consume .micAlg)
      (.consumed (channels.consume host.directory .micAlg written.files).1) _ := .consume rfl
  have stands : written.entryFor host.directory .micAlg = some (.file bytes) := rfl
  obtain ⟨-, -, -, yields, -⟩ := channels_refine_slots closed (.start : History host _ _ _)
  have settled := yields .micAlg path reserved [(.write .micAlg bytes, .attempted (.ok ()))]
    written _ _ rfl reserves (.step .start writes) (by simp) consumes
  refine ⟨closed, reserves, writes, _, _, consumes, ?_⟩
  rcases settled with ⟨blocked, -⟩ | taken
  · exact absurd (stands.symm.trans blocked) (by simp)
  · exact taken

end StatelessPgp
