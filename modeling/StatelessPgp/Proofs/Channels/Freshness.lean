import StatelessPgp.Proofs.Channels.Refinement

/-!
# Reservations and what was written before them

A backend may keep the paths it was given and write to them at any time, also when a channel has
been consumed.  A reservation that finds its channel unreserved removes what was left there, so
that only what is written afterwards is consumed.  A reservation that finds its channel reserved
changes nothing: what stood there is still consumed unless it is written anew.
-/

namespace StatelessPgp

open FileTree

namespace Session

variable {host : Host} {slots : Slots} {session next : Session}
variable {event : Event} {answer : Answer}

/-- One event of a session with a backend that does not care whether channels are reserved: it
writes files and makes directories at their places in the private directory whenever it likes. -/
inductive LooseStep (host : Host) : Session → Event → Answer → Session → Prop where
  | regular {session next : Session} {event : Event} {answer : Answer}
      (step : Step host session event answer next) : LooseStep host session event answer next
  | write {channels : Channels} {files surroundings : FileTree} {directory : Path}
      (opened : channels.directory = some directory) (channel : Channel) (bytes : Bytes)
      {result : Except SystemError FileTree}
      (writes : files.write host.directory (directory.join (Path.ofText channel.fileName)) bytes =
        result) :
      LooseStep host ⟨some channels, files, surroundings⟩ (.write channel bytes)
        (.attempted (result.map fun _ => ()))
        ⟨some channels, result.toOption.getD files, surroundings⟩
  | makeDirectory {channels : Channels} {files surroundings : FileTree} {directory : Path}
      (opened : channels.directory = some directory) (channel : Channel)
      {result : Except SystemError FileTree}
      (makes : (files.createDirectory host.directory
        (directory.join (Path.ofText channel.fileName))).map Prod.snd = result) :
      LooseStep host ⟨some channels, files, surroundings⟩ (.makeDirectory channel)
        (.attempted (result.map fun _ => ()))
        ⟨some channels, result.toOption.getD files, surroundings⟩

/-- The sessions that a trace with such a backend leads to. -/
inductive LooseHistory (host : Host) (first : Session) : Trace → Session → Prop where
  | start : LooseHistory host first [] first
  | step {trace : Trace} {session next : Session} {event : Event} {answer : Answer}
      (history : LooseHistory host first trace session)
      (step : LooseStep host session event answer next) :
      LooseHistory host first (trace ++ [(event, answer)]) next

/-- Whatever is attempted at the place of a channel changes its slot alone. -/
theorem Sound.attemptAt {channels : Channels} {files surroundings : FileTree} {directory : Path}
    {channel : Channel} {result : Except SystemError FileTree}
    (sound : Sound host slots ⟨some channels, files, surroundings⟩)
    (opened : channels.directory = some directory)
    (change : Content → Except SystemError Content)
    (changes : ∀ place,
      files.Reaches host.directory (directory.join (Path.ofText channel.fileName)) place →
        files.get? place = (slots channel).content.asEntry →
          Changes files place (change (slots channel).content) result)
    (fails : ∀ error, checkPath (directory.join (Path.ofText channel.fileName)) = .error error →
      result = .error error) :
    ∃ slot, Sound host (Function.update slots channel slot)
        ⟨some channels, result.toOption.getD files, surroundings⟩ ∧
      ((slots channel).reserved = true → slot = (slots channel).attempt change ∧
        result.map (fun _ => ()) = (change (slots channel).content).map fun _ => ()) := by
  cases sound with
  | unopened unopened => cases unopened.symm.trans opened
  | opened kept =>
      cases kept.directory.symm.trans opened
      cases usable : checkPath (directory.join (Path.ofText channel.fileName)) with
      | error error =>
          -- The name is too long for the system, and then the channel was never reserved.
          refine ⟨slots channel, ?_, fun reserved => ?_⟩
          · rw [fails error usable, Function.update_eq_self]
            exact .opened kept
          · have used : slots channel ≠ .unused := by
              intro unused
              rw [unused] at reserved
              cases reserved
            cases (kept.usable channel used).symm.trans usable
      | ok =>
          obtain ⟨same, after⟩ :=
            kept.attempt usable (changes _ (kept.reaches usable) (kept.stands channel))
          exact ⟨_, .opened after, fun _ => ⟨rfl, same⟩⟩

/-- A loose step keeps slots right as well, and a channel goes on holding what was last written
until it is consumed. -/
theorem LooseStep.sound (step : LooseStep host session event answer next)
    (sound : Sound host slots session) :
    ∃ later, Sound host later next ∧ ∀ channel trace, Pending channel trace (slots channel) →
      event ≠ .consume channel → event ≠ .drop →
        Pending channel (trace ++ [(event, answer)]) (later channel) := by
  cases step with
  | regular step =>
      obtain ⟨allowed, after⟩ := step.sound sound
      exact ⟨_, after, fun channel trace pending => pending.after allowed⟩
  | @write channels files surroundings directory opened channel bytes result writes =>
      subst writes
      obtain ⟨slot, after, held⟩ := sound.attemptAt opened (Content.write bytes)
        (fun place reaches stands => reaches.write_changes stands bytes)
        fun error unusable => by rw [FileTree.write, resolve, unusable]
      refine ⟨_, after, fun other trace pending _ _ => ?_⟩
      by_cases same : other = channel
      · subst same
        obtain ⟨rfl, answered⟩ := held pending.reserved
        rw [Function.update_self, answered]
        exact pending.write bytes
      · have apart : (Event.write channel bytes).channel? ≠ some other :=
          fun about => same (Option.some.inj about).symm
        rw [Function.update_of_ne same]
        exact pending.beside apart _
  | @makeDirectory channels files surroundings directory opened channel result makes =>
      subst makes
      obtain ⟨slot, after, held⟩ := sound.attemptAt opened Content.makeDirectory
        (fun place reaches stands => reaches.makeDirectory_changes stands)
        fun error unusable => by
          rw [createDirectory, resolveName, unusable]
          rfl
      refine ⟨_, after, fun other trace pending _ _ => ?_⟩
      by_cases same : other = channel
      · subst same
        obtain ⟨rfl, -⟩ := held pending.reserved
        rw [Function.update_self]
        exact pending.makeDirectory _
      · have apart : (Event.makeDirectory channel).channel? ≠ some other :=
          fun about => same (Option.some.inj about).symm
        rw [Function.update_of_ne same]
        exact pending.beside apart _

theorem LooseStep.released (step : LooseStep host session event answer next)
    (released : session.channels = none) : next.channels = none := by
  cases step with
  | regular step => exact (History.start.step step).directory.2 released
  | write => cases released
  | makeDirectory => cases released

theorem LooseStep.drop (step : LooseStep host session .drop answer next) :
    next.channels = none := by
  cases step with
  | regular step =>
      cases step
      rfl

theorem LooseHistory.sound {parent : ScratchParent} {files : FileTree} {trace : Trace}
    (closed : files.Closed) (history : LooseHistory host (.start parent files) trace session) :
    ∃ slots, Sound host slots session := by
  induction history with
  | start => exact ⟨_, .unopened rfl rfl closed fun _ => rfl⟩
  | step history step hypothesis =>
      obtain ⟨slots, sound⟩ := hypothesis
      obtain ⟨later, after, -⟩ := step.sound sound
      exact ⟨later, after⟩

/-- Until it is consumed or the channels are released, a channel goes on holding what was last
written, be it before these events. -/
theorem LooseHistory.pending {channel : Channel} {before between : Trace} {later : Session}
    (history : LooseHistory host session between later) (sound : Sound host slots session)
    (pending : Pending channel before (slots channel))
    (waits : ∀ answer, (Event.consume channel, answer) ∉ between) :
    later.channels = none ∨
      ∃ slots, Sound host slots later ∧ Pending channel (before ++ between) (slots channel) := by
  induction history with
  | start =>
      rw [List.append_nil]
      exact .inr ⟨slots, sound, pending⟩
  | @step trace middle next event answer history step hypothesis =>
      have reached := hypothesis fun answer member =>
        waits answer (List.mem_append_left _ member)
      rcases reached with released | ⟨slots, sound, pending⟩
      · exact .inl (step.released released)
      · by_cases drop : event = .drop
        · subst drop
          exact .inl step.drop
        · obtain ⟨later, after, holds⟩ := step.sound sound
          refine .inr ⟨later, after, ?_⟩
          rw [← List.append_assoc]
          refine holds channel _ pending ?_ drop
          rintro rfl
          exact waits answer (by simp)

theorem lastWritten_append (channel : Channel) (before between : Trace) :
    lastWritten channel (before ++ between) =
      (lastWritten channel between).or (lastWritten channel before) := by
  induction between using List.reverseRecOn with
  | nil => rw [List.append_nil]; rfl
  | append_singleton between entry hypothesis =>
      rw [← List.append_assoc, lastWritten_concat, lastWritten_concat, hypothesis, written.eq_def,
        written.eq_def]
      split
      · split <;> rfl
      · rfl

/-- What stands at the path of a reserved channel is as if it had been written before. -/
theorem Sound.standing {channel : Channel} {path : Path} (sound : Sound host slots session)
    (reserved : session.path? channel = some path) :
    ∃ before, Pending channel before (slots channel) ∧
      lastWritten channel before = (session.files.read host.directory path).toOption := by
  cases sound with
  | released => cases reserved
  | unopened directory empty => cases (Channels.path?_of_empty empty channel).symm.trans reserved
  | opened kept =>
      obtain ⟨rfl, isReserved, usable⟩ := kept.of_path? reserved
      rw [(kept.reaches usable).read_eq (kept.stands channel)]
      cases content : (slots channel).content with
      | nothing => exact ⟨[], ⟨isReserved, .inr content⟩, rfl⟩
      | directory => exact ⟨[], ⟨isReserved, .inl content⟩, rfl⟩
      | data bytes =>
          have last : lastWritten channel [(.write channel bytes, .attempted (.ok ()))] =
              some bytes := if_pos rfl
          exact ⟨_, ⟨isReserved, .inr (content.trans (by rw [last]; rfl))⟩, last⟩

theorem Sound.exists?_eq_false {channel : Channel} {path : Path} (sound : Sound host slots session)
    (reserved : session.path? channel = some path) (vacant : (slots channel).content = .nothing) :
    session.files.exists? host.directory path = false := by
  cases sound with
  | released => cases reserved
  | unopened directory empty => cases (Channels.path?_of_empty empty channel).symm.trans reserved
  | opened kept =>
      obtain ⟨rfl, -, usable⟩ := kept.of_path? reserved
      have stands := kept.stands channel
      rw [vacant] at stands
      exact (kept.reaches usable).exists?_of_vacant stands

/-- When a channel is consumed the next time, this yields what was last written to it from now on,
or else what stands there already.  Only a directory is in the way. -/
def Yields (host : Host) (channel : Channel) (session : Session) (standing : Option Bytes) : Prop :=
  ∀ between before result after, LooseHistory host session between before →
    (∀ answer, (Event.consume channel, answer) ∉ between) →
    Step host before (.consume channel) (.consumed result) after →
      before.entryFor host.directory channel = some .directory ∧ result = .error .isDirectory ∨
        result = .ok ((lastWritten channel between).or standing)

theorem Pending.yields {channel : Channel} {trace : Trace}
    (pending : Pending channel trace (slots channel)) (sound : Sound host slots session) :
    session.Yields host channel (lastWritten channel trace) := by
  intro between before result after history waits consumes
  rcases history.pending sound pending waits with released | ⟨slots, sound, pending⟩
  · cases consumes
    cases released
  · rw [← lastWritten_append]
    exact (pending.consumed sound consumes).imp_right And.left

end Session

open Session

/-- A reservation that finds its channel unreserved leaves nothing at the path, whatever a backend
wrote there before, and what is consumed then was written since.  One that finds its channel
reserved leaves everything as it is: what stands at the path is consumed unless it is written
anew. -/
theorem reservations_forget_unless_reserved {host : Host} {parent : ScratchParent}
    {files : FileTree} {trace : Session.Trace} {session next : Session} {channel : Channel}
    {path : Path} (closed : files.Closed)
    (history : LooseHistory host (.start parent files) trace session)
    (reserves : Step host session (.reserve channel) (.reserved (.ok path)) next) :
    (session.path? channel = none →
      next.files.exists? host.directory path = false ∧ next.Yields host channel none) ∧
    (session.path? channel ≠ none →
      next = session ∧ session.path? channel = some path ∧
        next.Yields host channel (session.files.read host.directory path).toOption) := by
  obtain ⟨slots, sound⟩ := history.sound closed
  have found : next.path? channel = some path := (reserves.moves sound).reserved _ _ rfl rfl
  constructor
  · intro unreserved
    obtain ⟨later, after, vacant⟩ := reserves.vacates sound unreserved
    have pending : Pending channel [] (later channel) := by
      rw [vacant]
      exact ⟨rfl, .inr rfl⟩
    exact ⟨after.exists?_eq_false found (by rw [vacant]), pending.yields after⟩
  · intro reserved
    obtain ⟨known, stands⟩ := Option.ne_none_iff_exists'.1 reserved
    have same : next = session := by
      cases reserves with
      | reserve reserves =>
          have known : Channels.path? _ channel = some known := stands
          rw [Channels.reserve, known] at reserves
          cases reserves
          rfl
    subst same
    obtain ⟨before, pending, last⟩ := sound.standing found
    exact ⟨rfl, found, last ▸ pending.yields sound⟩

theorem stale_report_is_consumed :
    let host := Host.bare .empty []
    let parent := ScratchParent.within (Path.ofText "/")
    let directory := Path.ofText "sop-scratch"
    let path := Path.ofText "/sop-scratch/verify-out"
    let stale := Path.ofText "stale"
    let channels : Channels :=
      ⟨parent, some (Path.ofText "/sop-scratch"), [(.verifications, path)]⟩
    let made : FileTree := ⟨[([directory], .directory)]⟩
    let reserved : Session := ⟨some channels, made, ⟨[]⟩⟩
    let file := [directory, Path.ofText "verify-out"]
    let written : Session := ⟨some channels, made.set file (.file stale), ⟨[]⟩⟩
    (⟨[]⟩ : FileTree).Closed ∧
      Step host (.start parent ⟨[]⟩) (.reserve .verifications) (.reserved (.ok path)) reserved ∧
      reserved.files.exists? host.directory path = false ∧
      Step host reserved (.write .verifications stale) (.attempted (.ok ())) written ∧
      Step host written (.reserve .verifications) (.reserved (.ok path)) written ∧
      ∃ result consumed, Step host written (.consume .verifications) (.consumed result) consumed ∧
        result = .ok (some stale) := by
  intro host parent directory path stale channels made reserved file written
  have closed : (⟨[]⟩ : FileTree).Closed := by
    intro location name found
    exact absurd (FileTree.get?_of_ne_root _ (by simp)) found
  have reserves : Step host (.start parent ⟨[]⟩) (.reserve .verifications) (.reserved (.ok path))
      reserved := .reserve rfl
  have stored : made.write host.directory path stale = .ok (made.set file (.file stale)) := rfl
  have writes : Step host reserved (.write .verifications stale) (.attempted (.ok ())) written :=
    .write rfl stale stored
  have again : Step host written (.reserve .verifications) (.reserved (.ok path)) written :=
    .reserve rfl
  have consumes : Step host written (.consume .verifications)
      (.consumed (channels.consume host.directory .verifications written.files).1) _ := .consume rfl
  have unreserved : (Session.start parent ⟨[]⟩).path? .verifications = none := rfl
  have known : written.path? .verifications ≠ none := by
    have held : written.path? .verifications = some path := rfl
    rw [held]
    exact nofun
  have stands : written.entryFor host.directory .verifications = some (.file stale) := rfl
  obtain ⟨vacant, -⟩ :=
    (reservations_forget_unless_reserved closed .start reserves).1 unreserved
  obtain ⟨-, -, yields⟩ := (reservations_forget_unless_reserved closed
    (.step (.step .start (.regular reserves)) (.regular writes)) again).2 known
  refine ⟨closed, reserves, vacant, writes, again, _, _, consumes, ?_⟩
  rcases yields [] written _ _ .start (by simp) consumes with ⟨blocked, -⟩ | taken
  · exact absurd (stands.symm.trans blocked) (by simp)
  · exact taken

end StatelessPgp
