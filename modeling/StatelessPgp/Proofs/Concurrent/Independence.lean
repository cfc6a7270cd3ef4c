import StatelessPgp.Proofs.Concurrent.Alike
import StatelessPgp.Proofs.Concurrent.Pairs

/-!
# Independence of concurrent invocations

An invocation among others is compared with the same invocation alone, which may draw
another name for its private directory.  Step by step, the two stay alike, and the steps
of others in between change nothing that either of them looks at.
-/

namespace StatelessPgp

open FileTree

/-- An invocation among others, and the same one alone. -/
structure Twin {operation : Operation} (host : Host) (config : Config) (first : FileTree)
    (name other : Name) (surroundings files remains : FileTree)
    (progress alone : Progress operation) : Prop where
  alike : progress.Alike (host.scratch config name) (host.scratch config other) alone
  paired : progress.channels.Paired host config first name other surroundings files remains
    alone.channels

namespace Twin

/-- The invocation alone takes a step, too, and the two are alike again. -/
def Follows {operation : Operation} (host : Host) (config : Config) (first : FileTree)
    (name other : Name) (surroundings files : FileTree) (progress : Progress operation)
    (result : Option (Progress operation × FileTree)) : Prop :=
  ∃ alone remains, result = some (alone, remains) ∧
    Twin host config first name other surroundings files remains progress alone

variable {operation : Operation} {host : Host} {config : Config}
variable {first surroundings files remains left : FileTree} {name other : Name}
variable {progress alone later : Progress operation}

section

variable
  (twin : Twin host config first name other surroundings files remains progress alone)

include twin

theorem reserve (vacates : first.Closed) (expanded : Expanded host config first files)
    (renames : host.offers config first name = true → host.offers config first other = true)
    (steps : progress.reserve host config name files = some (later, left)) :
    Follows host config first name other surroundings left later
      (alone.reserve host config other remains) := by
  obtain ⟨⟨stages, commands, calls⟩, paired⟩ := twin
  obtain ⟨stage, channels, command, call⟩ := progress
  obtain ⟨sibling, others, _, _⟩ := alone
  dsimp only at stages commands calls paired
  cases stages with
  | ready | running | reading | settled | released => cases steps
  | drafting option rest same =>
      simp only [Progress.reserve] at steps
      split at steps
      · cases steps
      next free =>
      have offered (unopened : channels.directory = none) :
          host.offers config files name = true := by
        by_contra refused
        exact free ⟨unopened, by simpa using refused⟩
      have lonely := paired.offers expanded renames offered
      have allowed : ¬ (others.directory = none ∧
          host.offers config remains other = false) := by
        rintro ⟨unopened, refused⟩
        cases (lonely unopened).symm.trans refused
      rw [Progress.reserve]
      dsimp only
      rw [if_neg allowed]
      rcases reserves : channels.reserve (host.drawing name) option.2 files with
        ⟨result, made, after⟩
      rcases mirrors : others.reserve (host.drawing other) option.2 remains with
        ⟨answer, loneMade, behind⟩
      obtain ⟨answers, paired⟩ :=
        paired.reserve vacates expanded offered lonely reserves mirrors
      rw [reserves] at steps
      cases answers with
      | refused error =>
          cases steps
          exact ⟨_, _, rfl, ⟨.settled (.same _), commands, calls⟩, paired⟩
      | unmade error =>
          cases steps
          exact ⟨_, _, rfl, ⟨.settled (.unmade _), commands, calls⟩, paired⟩
      | reserved =>
          cases steps
          refine ⟨_, _, rfl, .drafted (same.option option) rest, ?_⟩
          rw [Progress.channels_drafted, Progress.channels_drafted]
          exact paired

theorem consume (steps : progress.consume host.directory files = some (later, left)) :
    Follows host config first name other surroundings left later
      (alone.consume host.directory remains) := by
  obtain ⟨⟨stages, commands, calls⟩, paired⟩ := twin
  obtain ⟨stage, channels, command, call⟩ := progress
  obtain ⟨sibling, others, _, _⟩ := alone
  dsimp only at stages commands calls paired
  cases stages with
  | drafting | ready | running | settled | released => cases steps
  | reading retrieval =>
      cases retrieval with
      | done result => cases steps
      | consume channel next =>
          rw [Progress.consume] at steps ⊢
          dsimp only at steps ⊢
          rcases consumes : channels.consume host.directory channel files with
            ⟨result, emptied, after⟩
          rcases mirrors : others.consume host.directory channel remains with
            ⟨answer, loneEmptied, behind⟩
          obtain ⟨rfl, paired⟩ := paired.consume consumes mirrors
          rw [consumes] at steps
          cases result with
          | error error =>
              cases steps
              exact ⟨_, _, rfl, ⟨.settled (.same _), commands, calls⟩, paired⟩
          | ok data =>
              cases steps
              exact ⟨_, _, rfl, ⟨.reading (next data), commands, calls⟩, paired⟩

theorem attempt {channel : Channel} (change : Content → Except SystemError Content)
    (attempted : FileTree → Path → Except SystemError FileTree)
    (refuses : ∃ error, change .directory = .error error)
    (changes : ∀ {tree path place content}, tree.Reaches host.directory path place →
      tree.get? place = content.asEntry →
        Changes tree place (change content) (attempted tree path))
    (steps : progress.attempt channel (attempted files) files = some (later, left)) :
    Follows host config first name other surroundings left later
      (alone.attempt channel (attempted remains) remains) := by
  obtain ⟨⟨stages, commands, calls⟩, paired⟩ := twin
  obtain ⟨stage, channels, command, call⟩ := progress
  obtain ⟨sibling, others, _, _⟩ := alone
  dsimp only at stages commands calls paired
  cases stages with
  | drafting | ready | reading | settled | released => cases steps
  | running =>
      cases reserved : channels.path? channel with
      | none => simp [Progress.attempt, reserved] at steps
      | some path =>
          obtain ⟨there, mirrored, paired⟩ := paired.attempt reserved refuses changes
          rw [Progress.attempt] at steps ⊢
          dsimp only at steps ⊢
          rw [reserved] at steps
          rw [mirrored]
          cases steps
          exact ⟨_, _, rfl, ⟨.running, commands, calls⟩, paired⟩

theorem drop
    (steps : progress.drop host.directory config.scratchParent files = some (later, left)) :
    Follows host config first name other surroundings left later
      (alone.drop host.directory config.scratchParent remains) := by
  have results := twin.alike.stage.result?
  have released := twin.paired.release
  obtain ⟨⟨stages, commands, calls⟩, paired⟩ := twin
  obtain ⟨stage, channels, command, call⟩ := progress
  obtain ⟨sibling, others, _, _⟩ := alone
  dsimp only at stages commands calls results released
  cases stages with
  | released => cases steps
  | drafting | ready | running | reading | settled =>
      cases steps
      exact ⟨_, _, rfl, ⟨.released results, commands, calls⟩, released⟩

end

theorem step {job : Job} {other : Name} {progress alone later : Progress job.operation}
    {turn : Turn}
    (twin : Twin host config first job.name other surroundings files remains progress alone)
    (vacates : first.Closed) (expanded : Expanded host config first files)
    (renames : host.offers config first job.name = true →
      host.offers config first other = true)
    (steps : progress.step host config job files turn = some (later, left)) :
    Follows host config first job.name other surroundings left later
      (alone.step host config (job.renamed other) remains turn) := by
  cases turn with
  | reserve => exact twin.reserve vacates expanded renames steps
  | start place =>
      obtain ⟨_, starts, same⟩ := Option.map_eq_some_iff.1 steps
      cases same
      obtain ⟨lone, mirrors, alike, channels, loneChannels⟩ := twin.alike.launch starts
      refine ⟨lone, remains, ?_, alike, ?_⟩
      · simp only [Progress.step, mirrors, Option.map_some]
      · rw [channels, loneChannels]
        exact twin.paired
  | write channel bytes =>
      exact twin.attempt (Content.write bytes)
        (fun tree path => tree.write host.directory path bytes) ⟨_, rfl⟩
        (fun reaches stands => reaches.write_changes stands bytes) steps
  | makeDirectory channel =>
      exact twin.attempt Content.makeDirectory
        (fun tree path => (tree.createDirectory host.directory path).map Prod.snd) ⟨_, rfl⟩
        (fun reaches stands => reaches.makeDirectory_changes stands) steps
  | exit output report exit =>
      obtain ⟨_, ends, same⟩ := Option.map_eq_some_iff.1 steps
      cases same
      obtain ⟨lone, mirrors, alike, channels, loneChannels⟩ := twin.alike.finish ends
      refine ⟨lone, remains, ?_, alike, ?_⟩
      · simp only [Progress.step, mirrors, Option.map_some]
      · rw [channels, loneChannels]
        exact twin.paired
  | consume => exact twin.consume steps
  | drop => exact twin.drop steps

theorem start {job : Job} {other : Name} (closed : first.Closed) :
    Twin host config first job.name other first first first (Progress.start config job)
      (Progress.start config (job.renamed other)) := by
  refine ⟨.start _ _ config job, ?_⟩
  have new : (Progress.start config (job.renamed other)).channels =
      .new config.scratchParent := Progress.channels_start config job
  rw [Progress.channels_start, new]
  refine ⟨⟨.unused, ?_, ?_⟩, Iff.rfl, closed, closed⟩ <;>
    exact .unopened rfl rfl closed fun _ => rfl

end Twin

theorem Progress.run_concat {host : Host} {config : Config} {job : Job}
    (trace : List Turn) (turn : Turn) (state : Progress job.operation × FileTree) :
    run host config job (trace ++ [turn]) state =
      (run host config job trace state).bind fun reached =>
        reached.1.step host config job reached.2 turn := by
  rw [run, List.foldlM_append, run]
  refine congrArg _ (funext fun reached => ?_)
  rw [List.foldlM_cons]
  exact bind_pure _

namespace System

variable {ι : Type} [DecidableEq ι] {jobs : ι → Job} {host : Host} {config : Config}
variable {first : FileTree} {trace : List (ι × Turn)} {system next : System jobs}

theorem own_concat_self (i : ι) (trace : List (ι × Turn)) (turn : Turn) :
    own i (trace ++ [(i, turn)]) = own i trace ++ [turn] := by
  simp [own]

theorem own_concat_of_ne {i j : ι} (differs : j ≠ i) (trace : List (ι × Turn))
    (turn : Turn) : own i (trace ++ [(j, turn)]) = own i trace := by
  simp [own, differs]

/-- What holds at first and is kept by every step holds after every run. -/
theorem run_invariant {holds : List (ι × Turn) → System jobs → Prop}
    {beginning : System jobs} (starts : holds [] beginning)
    (keeps : ∀ trace system event next, holds trace system →
      step host config system event = some next → holds (trace ++ [event]) next)
    (ran : run host config trace beginning = some system) : holds trace system := by
  induction trace using List.reverseRecOn generalizing system with
  | nil =>
      cases ran
      exact starts
  | append_singleton trace event hypothesis =>
      rw [run, List.foldlM_append] at ran
      obtain ⟨middle, before, last⟩ := Option.bind_eq_some_iff.1 ran
      rw [List.foldlM_cons] at last
      obtain ⟨after, steps, same⟩ := Option.bind_eq_some_iff.1 last
      cases same
      exact keeps trace middle event _ (hypothesis before) steps

/-- Every invocation has come as far as its own steps would have brought it alone. -/
structure Separate (host : Host) (config : Config) (first : FileTree)
    (trace : List (ι × Turn)) (system : System jobs) : Prop where
  housed : Housed host config first (fun i => (jobs i).name)
    (fun i => (system.progress i).channels) system.files
  twins : ∀ i other, (host.offers config first (jobs i).name = true →
      host.offers config first other = true) →
    ∃ alone remains surroundings,
      Progress.run host config ((jobs i).renamed other) (own i trace)
          (Progress.start config ((jobs i).renamed other), first) =
        some (alone, remains) ∧
      Twin host config first (jobs i).name other surroundings system.files remains
        (system.progress i) alone
  released : ∀ i result, (system.progress i).stage = .released result →
    (system.progress i).channels = .new config.scratchParent

theorem Separate.start (closed : first.Closed) :
    Separate host config first [] (System.start config jobs first) where
  housed := by
    have new : (fun i => ((System.start config jobs first).progress i).channels) =
        fun _ => .new config.scratchParent :=
      funext fun i => Progress.channels_start config (jobs i)
    rw [new]
    exact .start closed _
  twins i other _ := ⟨_, first, first, rfl, .start closed⟩
  released i _ _ := Progress.channels_start config (jobs i)

/-- A step of one invocation keeps it together with itself alone, and all others with
themselves. -/
theorem Separate.step (closed : first.Closed) {event : ι × Turn}
    (separate : Separate host config first trace system)
    (steps : System.step host config system event = some next) :
    Separate host config first (trace ++ [event]) next := by
  obtain ⟨j, turn⟩ := event
  obtain ⟨⟨later, left⟩, moves, same⟩ := Option.map_eq_some_iff.1 steps
  cases same
  have expanded := separate.housed.expanded closed
  -- What the step does to the files is read off the twin that draws the same name.
  obtain ⟨_, _, surroundings, -, mine⟩ := separate.twins j (jobs j).name id
  obtain ⟨_, _, -, moved⟩ := mine.step closed expanded id moves
  obtain ⟨_, before, -⟩ := mine.paired.agree
  obtain ⟨_, became, -⟩ := moved.paired.agree
  refine ⟨?housed, ?twins, ?released⟩
  case housed =>
      have channels : (fun i => (Function.update system.progress j later i).channels) =
          Function.update (fun i => (system.progress i).channels) j later.channels :=
        funext fun i => Function.apply_update (fun _ progress => Progress.channels progress)
          system.progress j later i
      rw [channels]
      exact separate.housed.step closed moved.paired.closed before became
  case twins =>
      intro i other renames
      obtain ⟨alone, remains, around, ran, twin⟩ := separate.twins i other renames
      by_cases self : i = j
      · subst self
        obtain ⟨next, behind, follows, after⟩ := twin.step closed expanded renames moves
        refine ⟨next, behind, around, ?_, ?_⟩
        · rw [own_concat_self, Progress.run_concat, ran]
          exact follows
        · dsimp only
          rw [Function.update_self]
          exact after
      · obtain ⟨slots, nested, lone⟩ := twin.paired.agree
        obtain ⟨around, kept⟩ :=
          separate.housed.others closed moved.paired.closed before became self nested
        refine ⟨alone, remains, around, ?_, ?_⟩
        · rw [own_concat_of_ne (Ne.symm self)]
          exact ran
        · dsimp only
          rw [Function.update_of_ne self]
          exact ⟨twin.alike, ⟨slots, kept, lone⟩, twin.paired.opened, moved.paired.closed,
            twin.paired.loneClosed⟩
  case released =>
      intro i result ends
      dsimp only at ends ⊢
      by_cases self : i = j
      · subst self
        rw [Function.update_self] at ends ⊢
        exact Progress.channels_of_released moves ends
      · rw [Function.update_of_ne self] at ends ⊢
        exact separate.released i result ends

end System

/-- Invocations that take their steps in any order on the same files are independent.
Each of them comes to the same result, with the same call of the backend, as when it
takes its own steps alone, up to the private directory, whatever free name is drawn for
that.  When all are over, the files are what they were. -/
theorem concurrent_invocations_are_independent {ι : Type} [DecidableEq ι] {host : Host}
    {config : Config} {jobs : ι → Job} {files : FileTree} {trace : List (ι × Turn)}
    {system : System jobs} (closed : files.Closed)
    (ran : System.run host config trace (System.start config jobs files) = some system) :
    (∀ i name, name = (jobs i).name ∨ host.offers config files name = true →
      ∃ alone left,
        Progress.run host config ((jobs i).renamed name) (System.own i trace)
            (Progress.start config ((jobs i).renamed name), files) =
          some (alone, left) ∧
        (system.progress i).Alike (host.scratch config (jobs i).name)
          (host.scratch config name) alone) ∧
      ((∀ i, ∃ result, (system.progress i).stage = .released result) →
        system.files.SameEntries files) := by
  have separate : System.Separate host config files trace system :=
    System.run_invariant (.start closed)
      (fun _ _ _ _ separate steps => separate.step closed steps) ran
  refine ⟨?alike, ?restored⟩
  case alike =>
      intro i name drawn
      have renames : host.offers config files (jobs i).name = true →
          host.offers config files name = true := by
        rcases drawn with rfl | offered
        · exact id
        · exact fun _ => offered
      obtain ⟨alone, left, _, alone_ran, twin⟩ := separate.twins i name renames
      exact ⟨alone, left, alone_ran, twin.alike⟩
  case restored =>
      intro finished
      apply separate.housed.sameEntries
      intro i
      obtain ⟨result, stage⟩ := finished i
      rw [separate.released i result stage, Channels.new]

theorem interleaved_signing_is_independent :
    let host := Host.bare .empty []
    let config := { Config.new (Path.ofText "/sop") with
      scratchParent := .within (Path.ofText "/") }
    let signing : Job := ⟨.sign, [.key (Path.ofText "KEY")], [], Path.ofText "sop-aaaaaa"⟩
    let detaching : Job := ⟨.inlineDetach, [], [], Path.ofText "sop-bbbbbb"⟩
    let jobs (second : Bool) : Job := if second then detaching else signing
    let other := Path.ofText "sop-cccccc"
    let files : FileTree := ⟨[]⟩
    let trace : List (Bool × Turn) :=
      [(false, .reserve), (true, .reserve), (false, .start (.ok [])), (true, .start (.ok [])),
        (true, .write .signatures (Path.ofText "signatures")),
        (false, .write .micAlg (Path.ofText "pgp-sha256")),
        (true, .exit [] [] (some (.status 0))), (true, .consume), (true, .drop),
        (false, .exit [] [] (some (.status 0))), (false, .consume), (false, .drop)]
    files.Closed ∧ host.offers config files other = true ∧
      ∃ system, System.run host config trace (System.start config jobs files) = some system ∧
        (system.progress false).stage = .released (some (.ok (MicAlg.ofText "pgp-sha256"))) ∧
        (∃ alone left,
          Progress.run host config (signing.renamed other) (System.own false trace)
              (Progress.start config (signing.renamed other), files) = some (alone, left) ∧
            (system.progress false).Alike (host.scratch config signing.name)
              (host.scratch config other) alone) ∧
        system.files.SameEntries files := by
  intro host config signing detaching jobs other files trace
  have closed : files.Closed := closed_of_shallow (by simp [files])
  have offered : host.offers config files other = true := by decide
  obtain ⟨system, ran, signed, finished⟩ : ∃ system,
      System.run host config trace (System.start config jobs files) = some system ∧
        (system.progress false).stage = .released (some (.ok (MicAlg.ofText "pgp-sha256"))) ∧
        ∀ i, ∃ result, (system.progress i).stage = .released result := by
    dsimp only [host, config, signing, detaching, jobs, files, trace]
    refine ⟨_, rfl, rfl, ?_⟩
    intro i
    cases i <;> exact ⟨_, rfl⟩
  obtain ⟨alike, restored⟩ := concurrent_invocations_are_independent closed ran
  exact ⟨closed, offered, system, ran, signed, alike false other (.inr offered), restored finished⟩

end StatelessPgp
