import StatelessPgp.Proofs.Designator.Shadowing
import StatelessPgp.Proofs.Files.Filled

/-!
# Outputs

An output is checked before anything is run and opened later.  Whatever the check refuses
cannot be opened either, for the same reason.  What it lets through may still fail to
open: the check asks whether there is an entry at the end of a path, and takes a path that
leads nowhere for one that is free.
-/

namespace StatelessPgp

open FileTree

theorem Designator.parse_file {token path : String} (named : parse token = .ok (.file path)) :
    path = Text.strip token := by
  rw [parse] at named
  split at named
  · cases named
  · split at named
    · cases named
    · split at named
      · cases named
      · cases named
        rfl

namespace Host

variable {host : Host} {files before after : FileTree} {token path : String}
variable {location : Location}

/-- A token, taken for the name of a file, leads to a location. -/
def LeadsTo (host : Host) (files : FileTree) (token : String) (location : Location) : Prop :=
  files.resolve host.directory (host.pathOf (Text.strip token)) false = .ok location

theorem isAbsolute_pathOf (host : Host) (path : String) :
    (host.pathOf path).isAbsolute = true :=
  Path.isAbsolute_join (Path.isAbsolute_ofLocation host.directory) _

theorem LeadsTo.unique {other : Location} (left : host.LeadsTo files token location)
    (right : host.LeadsTo files token other) : location = other :=
  Except.ok.inj (left.symm.trans right)

theorem leadsTo_filled (filled : Filled before after) :
    host.LeadsTo after token location ↔ host.LeadsTo before token location :=
  filled.resolve_eq_ok_iff false

theorem IsShadowed.filled (filled : Filled before after)
    (shadowed : host.IsShadowed before token) : host.IsShadowed after token := by
  obtain ⟨location, entry, leads, found⟩ := shadowed
  have before : before.get? location ≠ none := by simp [found]
  obtain ⟨now, stands⟩ := Option.ne_none_iff_exists'.1 (filled.ne_none before)
  exact ⟨location, now, (leadsTo_filled filled).2 leads, stands⟩

/-- The system shows the open descriptors in a directory. -/
def ShowsDescriptors (host : Host) (files : FileTree) : Prop :=
  files.leadsToDirectory host.directory descriptorPath = true

theorem checkDescriptors_of_shown (shown : host.ShowsDescriptors files) :
    host.checkDescriptors files = .ok () :=
  if_pos shown

theorem checkDescriptors_of_not_shown (hidden : ¬ host.ShowsDescriptors files) :
    host.checkDescriptors files = .error descriptorsUnsupported :=
  if_neg hidden

theorem showsDescriptors_filled (filled : Filled before after) :
    host.ShowsDescriptors after ↔ host.ShowsDescriptors before := by
  rw [ShowsDescriptors, ShowsDescriptors, filled.leadsToDirectory_eq]

/-- Nothing is in the way of an output, so far as the check looks. -/
inductive Passes (host : Host) (files : FileTree) (token : String) : Prop where
  | descriptor {number : Nat} (named : Designator.parse token = .ok (.descriptor number))
      (free : ¬ host.IsShadowed files token) (shown : host.ShowsDescriptors files)
  | file {path : String} (named : Designator.parse token = .ok (.file path))
      (free : ¬ host.IsShadowed files token)

theorem isShadowed_file (named : Designator.parse token = .ok (.file path)) :
    host.IsShadowed files token ↔
      files.exists? host.directory (host.pathOf path) = true := by
  rw [isShadowed_iff, Designator.parse_file named]

theorem checkOutput_descriptor {number : Nat}
    (named : Designator.parse token = .ok (.descriptor number)) :
    host.checkOutput files token =
      (host.rejectAmbiguous files token).bind fun () => host.checkDescriptors files := by
  simp only [checkOutput, named, bind, Except.bind]

theorem checkOutput_file (named : Designator.parse token = .ok (.file path)) :
    host.checkOutput files token =
      if files.exists? host.directory (host.pathOf path) then
        .error (outputExists (host.pathOf path))
      else .ok () := by
  simp only [checkOutput, named, bind, Except.bind]
  rfl

theorem openOutput_descriptor {number : Nat}
    (named : Designator.parse token = .ok (.descriptor number)) :
    host.openOutput files token =
      (host.checkOutput files token).bind fun () =>
        match host.descriptors.lookup number with
        | some descriptor => .ok (descriptor, files)
        | none => .error (notOpen .generic number "writing") := by
  rw [checkOutput_descriptor named]
  simp only [openOutput, named, bind, Except.bind]
  cases host.rejectAmbiguous files token with
  | error failure => rfl
  | ok =>
      dsimp only
      cases host.checkDescriptors files with
      | error failure => rfl
      | ok => cases host.descriptors.lookup number <;> rfl

theorem openOutput_file (named : Designator.parse token = .ok (.file path)) :
    host.openOutput files token =
      if files.exists? host.directory (host.pathOf path) then
        .error (outputExists (host.pathOf path))
      else
        match files.vacancy host.directory (host.pathOf path) with
        | .ok location => .ok (.file location, files.set location (.file []))
        | .error error =>
            .error (if error = .occupied then outputExists (host.pathOf path)
              else .because .generic
                ("Output file " ++ (host.pathOf path).display ++ " cannot be created.")
                error.message) := by
  simp only [openOutput, named, bind, Except.bind, createFile]
  split
  · rfl
  · cases files.vacancy host.directory (host.pathOf path) with
    | ok location => rfl
    | error error =>
        by_cases occupied : error = .occupied
        · rw [occupied]
          rfl
        · dsimp only
          rw [if_neg occupied]
          split
          · next same => cases same
          · next same => exact absurd (Except.error.inj same) occupied
          · next same => cases same; rfl

theorem openOutput_file_of_isShadowed (named : Designator.parse token = .ok (.file path))
    (shadowed : host.IsShadowed files token) :
    host.openOutput files token = .error (outputExists (host.pathOf path)) := by
  rw [openOutput_file named, if_pos ((isShadowed_file named).1 shadowed)]

theorem openOutput_descriptor_of_refused {number : Nat} {failure : Failure}
    (named : Designator.parse token = .ok (.descriptor number))
    (refused : host.checkOutput files token = .error failure) :
    host.openOutput files token = .error failure := by
  rw [openOutput_descriptor named, refused]
  rfl

theorem openOutput_descriptor_of_isShadowed {number : Nat}
    (named : Designator.parse token = .ok (.descriptor number))
    (shadowed : host.IsShadowed files token) :
    ∃ failure, failure.kind = .ambiguousInput ∧
      host.checkOutput files token = .error failure ∧
      host.openOutput files token = .error failure := by
  obtain ⟨failure, kind, rejected⟩ := rejectAmbiguous_of_isShadowed shadowed
  have refused : host.checkOutput files token = .error failure := by
    rw [checkOutput_descriptor named, rejected]
    rfl
  exact ⟨failure, kind, refused, openOutput_descriptor_of_refused named refused⟩

theorem checkOutput_descriptor_of_free {number : Nat}
    (named : Designator.parse token = .ok (.descriptor number))
    (free : ¬ host.IsShadowed files token) :
    host.checkOutput files token = host.checkDescriptors files := by
  rw [checkOutput_descriptor named, rejectAmbiguous_of_not_isShadowed free]
  rfl

/-- The check succeeds where nothing is in the way, and otherwise fails as opening
does. -/
theorem checkOutput_cases (host : Host) (files : FileTree) (token : String) :
    (host.Passes files token ∧ host.checkOutput files token = .ok ()) ∨
      (¬ host.Passes files token ∧ ∃ failure, host.checkOutput files token = .error failure ∧
        host.openOutput files token = .error failure) := by
  cases named : Designator.parse token with
  | error failure =>
      refine .inr ⟨?_, failure, ?_, ?_⟩
      · rintro (⟨other, -⟩ | ⟨other, -⟩) <;> cases named.symm.trans other
      · rw [checkOutput, named]
        rfl
      · rw [openOutput, named]
        rfl
  | ok designator =>
      cases designator with
      | «variable» name =>
          refine .inr ⟨?_, variableOutput, ?_, ?_⟩
          · rintro (⟨other, -⟩ | ⟨other, -⟩) <;> cases named.symm.trans other
          · rw [checkOutput, named]
            rfl
          · rw [openOutput, named]
            rfl
      | descriptor number =>
          by_cases shadowed : host.IsShadowed files token
          · obtain ⟨failure, -, refused, unopened⟩ :=
              openOutput_descriptor_of_isShadowed named shadowed
            refine .inr ⟨?_, failure, refused, unopened⟩
            rintro (⟨-, free⟩ | ⟨-, free⟩) <;> exact free shadowed
          have checked := checkOutput_descriptor_of_free named shadowed
          by_cases shown : host.ShowsDescriptors files
          · rw [checkDescriptors_of_shown shown] at checked
            exact .inl ⟨.descriptor named shadowed shown, checked⟩
          · rw [checkDescriptors_of_not_shown shown] at checked
            refine .inr ⟨?_, _, checked, openOutput_descriptor_of_refused named checked⟩
            rintro (⟨-, -, there⟩ | ⟨other, -⟩)
            · exact shown there
            · cases named.symm.trans other
      | file path =>
          rw [checkOutput_file named]
          by_cases shadowed : host.IsShadowed files token
          · rw [if_pos ((isShadowed_file named).1 shadowed)]
            refine .inr ⟨?_, _, rfl, openOutput_file_of_isShadowed named shadowed⟩
            rintro (⟨-, free⟩ | ⟨-, free⟩) <;> exact free shadowed
          · rw [if_neg (mt (isShadowed_file named).2 shadowed)]
            exact .inl ⟨.file named shadowed, rfl⟩

theorem checkOutput_eq_ok_iff :
    host.checkOutput files token = .ok () ↔ host.Passes files token := by
  rcases host.checkOutput_cases files token with ⟨passes, checked⟩ | ⟨blocked, _, refused, -⟩
  · exact ⟨fun _ => passes, fun _ => checked⟩
  · rw [refused]
    exact ⟨nofun, fun passes => absurd passes blocked⟩

theorem openOutput_of_checkOutput_error {failure : Failure}
    (refused : host.checkOutput files token = .error failure) :
    host.openOutput files token = .error failure := by
  rcases host.checkOutput_cases files token with ⟨-, checked⟩ | ⟨-, other, same, opened⟩
  · cases refused.symm.trans checked
  · cases refused.symm.trans same
    exact opened

/-- How an output is opened: an open descriptor is taken as it is, and a file is made
where its path leads to nothing in an ordinary directory. -/
inductive Grants (host : Host) (files : FileTree) (token : String) :
    Descriptor → FileTree → Prop where
  | descriptor {number : Nat} {descriptor : Descriptor}
      (named : Designator.parse token = .ok (.descriptor number))
      (free : ¬ host.IsShadowed files token) (shown : host.ShowsDescriptors files)
      (isOpen : host.descriptors.lookup number = some descriptor) :
      Grants host files token descriptor files
  | file {path : String} {location : Location}
      (named : Designator.parse token = .ok (.file path))
      (proper : (host.pathOf path).endsAsDirectory = false)
      (leads : host.LeadsTo files token location) (vacant : files.get? location = none)
      (parent : files.get? location.dropLast = some .directory) :
      Grants host files token (.file location) (files.set location (.file []))

/-- Why an output that passes the check cannot be opened. -/
inductive Overlooked (host : Host) (files : FileTree) (token : String) : Prop where
  | closed {number : Nat} (named : Designator.parse token = .ok (.descriptor number))
      (free : ¬ host.IsShadowed files token) (shown : host.ShowsDescriptors files)
      (missing : host.descriptors.lookup number = none)
  /-- The path cannot be followed to its end. -/
  | lost {path : String} {error : SystemError}
      (named : Designator.parse token = .ok (.file path))
      (lost : files.resolve host.directory (host.pathOf path) false = .error error)
  /-- The path can only lead to a directory, and there is none. -/
  | directory {path : String} (named : Designator.parse token = .ok (.file path))
      (free : ¬ host.IsShadowed files token)
      (ends : (host.pathOf path).endsAsDirectory = true)
  /-- Nothing can be made in the directory to which the path leads. -/
  | reserved {path : String} {location : Location}
      (named : Designator.parse token = .ok (.file path))
      (leads : host.LeadsTo files token location) (vacant : files.get? location = none)
      (parent : files.get? location.dropLast = some .systemDirectory)

theorem LeadsTo.free (leads : host.LeadsTo files token location)
    (vacant : files.get? location = none) : ¬ host.IsShadowed files token := by
  rintro ⟨other, entry, leadsThere, found⟩
  rw [← leads.unique leadsThere, vacant] at found
  cases found

theorem openOutput_descriptor_eq_ok_iff {number : Nat} {descriptor : Descriptor}
    (named : Designator.parse token = .ok (.descriptor number)) :
    host.openOutput files token = .ok (descriptor, after) ↔
      host.Passes files token ∧ host.descriptors.lookup number = some descriptor ∧
        after = files := by
  rw [openOutput_descriptor named]
  rcases host.checkOutput_cases files token with ⟨passes, checked⟩ | ⟨blocked, _, refused, -⟩
  · rw [checked, Except.bind]
    cases host.descriptors.lookup number with
    | none => simp
    | some found =>
        constructor
        · rintro ⟨⟩
          exact ⟨passes, rfl, rfl⟩
        · rintro ⟨-, ⟨⟩, rfl⟩
          rfl
  · rw [refused]
    exact ⟨nofun, fun opens => absurd opens.1 blocked⟩

theorem Passes.free (passes : host.Passes files token) : ¬ host.IsShadowed files token := by
  cases passes with
  | descriptor _ free | file _ free => exact free

theorem Passes.shown {number : Nat} (passes : host.Passes files token)
    (named : Designator.parse token = .ok (.descriptor number)) :
    host.ShowsDescriptors files := by
  cases passes with
  | descriptor _ _ shown => exact shown
  | file other => cases named.symm.trans other

theorem openOutput_file_eq_ok_iff {descriptor : Descriptor}
    (named : Designator.parse token = .ok (.file path)) :
    host.openOutput files token = .ok (descriptor, after) ↔
      ∃ location, files.vacancy host.directory (host.pathOf path) = .ok location ∧
        descriptor = .file location ∧ after = files.set location (.file []) := by
  have absent (location : Location)
      (made : files.vacancy host.directory (host.pathOf path) = .ok location) :
      ¬ files.exists? host.directory (host.pathOf path) = true := by
    obtain ⟨-, leads, vacant, -⟩ := (vacancy_eq_ok_iff (host.isAbsolute_pathOf path)).1 made
    rw [Designator.parse_file named] at leads
    rw [← isShadowed_file named]
    exact LeadsTo.free leads vacant
  rw [openOutput_file named]
  cases made : files.vacancy host.directory (host.pathOf path) with
  | error error => split <;> simp
  | ok location =>
      rw [if_neg (absent location made)]
      constructor
      · rintro ⟨⟩
        exact ⟨location, rfl, rfl, rfl⟩
      · rintro ⟨_, ⟨⟩, rfl, rfl⟩
        rfl

theorem openOutput_eq_ok_iff {descriptor : Descriptor} :
    host.openOutput files token = .ok (descriptor, after) ↔
      host.Grants files token descriptor after := by
  constructor
  · intro opened
    cases named : Designator.parse token with
    | error failure =>
        rw [openOutput, named] at opened
        cases opened
    | ok designator =>
        cases designator with
        | «variable» name =>
            rw [openOutput, named] at opened
            cases opened
        | descriptor number =>
            obtain ⟨passes, isOpen, rfl⟩ := (openOutput_descriptor_eq_ok_iff named).1 opened
            exact .descriptor named passes.free (passes.shown named) isOpen
        | file path =>
            obtain ⟨location, made, rfl, rfl⟩ := (openOutput_file_eq_ok_iff named).1 opened
            obtain ⟨proper, leads, vacant, parent⟩ :=
              (vacancy_eq_ok_iff (host.isAbsolute_pathOf path)).1 made
            rw [Designator.parse_file named] at leads
            exact .file named proper leads vacant parent
  · intro grants
    cases grants with
    | descriptor named free shown isOpen =>
        exact (openOutput_descriptor_eq_ok_iff named).2
          ⟨.descriptor named free shown, isOpen, rfl⟩
    | @file path location named proper leads vacant parent =>
        rw [LeadsTo, ← Designator.parse_file named] at leads
        exact (openOutput_file_eq_ok_iff named).2 ⟨location,
          (vacancy_eq_ok_iff (host.isAbsolute_pathOf path)).2 ⟨proper, leads, vacant, parent⟩,
          rfl, rfl⟩

theorem Grants.passes {descriptor : Descriptor}
    (grants : host.Grants files token descriptor after) : host.Passes files token := by
  cases grants with
  | descriptor named free shown => exact .descriptor named free shown
  | file named _ leads vacant => exact .file named (leads.free vacant)

theorem Overlooked.passes (overlooked : host.Overlooked files token) :
    host.Passes files token := by
  cases overlooked with
  | closed named free shown => exact .descriptor named free shown
  | @lost path error named lost =>
      refine .file named ?_
      rintro ⟨location, entry, leads, -⟩
      rw [Designator.parse_file named] at lost
      cases lost.symm.trans leads
  | directory named free => exact .file named free
  | reserved named leads vacant => exact .file named (leads.free vacant)

/-- An output that passes the check is overlooked or can be opened. -/
theorem Passes.grants_or_overlooked (passes : host.Passes files token) :
    (∃ descriptor after, host.Grants files token descriptor after) ∨
      host.Overlooked files token := by
  cases passes with
  | @descriptor number named free shown =>
      cases isOpen : host.descriptors.lookup number with
      | none => exact .inr (.closed named free shown isOpen)
      | some descriptor => exact .inl ⟨_, _, .descriptor named free shown isOpen⟩
  | @file path named free =>
      cases resolved : files.resolve host.directory (host.pathOf path) false with
      | error error => exact .inr (.lost named resolved)
      | ok location =>
          have parent := isDirectory_of_resolve (host.isAbsolute_pathOf path) resolved
          have leads : host.LeadsTo files token location := by
            rwa [LeadsTo, ← Designator.parse_file named]
          have vacant : files.get? location = none := by
            by_contra found
            obtain ⟨entry, found⟩ := Option.ne_none_iff_exists'.1 found
            exact free ⟨location, entry, leads, found⟩
          cases proper : (host.pathOf path).endsAsDirectory with
          | true => exact .inr (.directory named free proper)
          | false =>
              rcases parent with ordinary | system
              · exact .inl ⟨_, _, .file named proper leads vacant ordinary⟩
              · exact .inr (.reserved named leads vacant system)

theorem Overlooked.not_grants (overlooked : host.Overlooked files token)
    {descriptor : Descriptor} : ¬ host.Grants files token descriptor after := by
  intro grants
  cases overlooked with
  | closed named free shown missing =>
      cases grants with
      | descriptor other _ _ isOpen =>
          cases named.symm.trans other
          cases missing.symm.trans isOpen
      | file other => cases named.symm.trans other
  | lost named lost =>
      cases grants with
      | descriptor other => cases named.symm.trans other
      | file other _ leads =>
          rw [Designator.parse_file named] at lost
          cases lost.symm.trans leads
  | directory named free ends =>
      cases grants with
      | descriptor other => cases named.symm.trans other
      | file other proper =>
          cases named.symm.trans other
          cases ends.symm.trans proper
  | reserved named leads vacant system =>
      cases grants with
      | descriptor other => cases named.symm.trans other
      | file other _ leadsThere _ parent =>
          rw [leads.unique leadsThere, parent] at system
          cases system

/-- Opening an output that is overlooked fails, for a reason that has no kind of its
own. -/
theorem Overlooked.openOutput_eq (overlooked : host.Overlooked files token) :
    ∃ failure, host.openOutput files token = .error failure ∧ failure.kind = .generic := by
  have refused : ∀ opened, host.openOutput files token ≠ .ok opened :=
    fun _ opened => overlooked.not_grants (openOutput_eq_ok_iff.1 opened)
  have unmade {path : String} (named : Designator.parse token = .ok (.file path))
      (free : ¬ host.IsShadowed files token) :
      ∃ failure, host.openOutput files token = .error failure ∧ failure.kind = .generic := by
    have absent := mt (isShadowed_file named).2 free
    rw [openOutput_file named, if_neg absent] at refused ⊢
    cases made : files.vacancy host.directory (host.pathOf path) with
    | ok location =>
        rw [made] at refused
        exact absurd rfl (refused _)
    | error error =>
        have other : error ≠ .occupied := by
          rintro rfl
          refine vacancy_ne_occupied ?_ made
          intro location leads
          rw [Designator.parse_file named] at leads
          by_contra found
          obtain ⟨entry, found⟩ := Option.ne_none_iff_exists'.1 found
          exact free ⟨location, entry, leads, found⟩
        exact ⟨_, rfl, by rw [if_neg other]; rfl⟩
  cases overlooked.passes with
  | file named free => exact unmade named free
  | @descriptor number named free shown =>
      rw [openOutput_descriptor named, checkOutput_descriptor_of_free named free,
        checkDescriptors_of_shown shown, Except.bind] at refused ⊢
      cases isOpen : host.descriptors.lookup number with
      | none => exact ⟨_, rfl, rfl⟩
      | some descriptor =>
          rw [isOpen] at refused
          exact absurd rfl (refused _)

/-- More files do not make it possible to open an output. -/
theorem Grants.of_filled {descriptor : Descriptor} {opened : FileTree}
    (grants : host.Grants after token descriptor opened) (filled : Filled before after) :
    ∃ opened, host.Grants before token descriptor opened := by
  cases grants with
  | descriptor named free shown isOpen =>
      exact ⟨_, .descriptor named (mt (IsShadowed.filled filled) free)
        ((showsDescriptors_filled filled).1 shown) isOpen⟩
  | file named proper leads vacant parent =>
      refine ⟨_, .file named proper ((leadsTo_filled filled).1 leads) ?_
        (filled.get?_of_ne_file parent nofun)⟩
      by_contra found
      exact filled.ne_none found vacant

/-- An output can still be opened unless one of the new files is in its way. -/
theorem Grants.filled {descriptor : Descriptor} {opened : FileTree}
    (grants : host.Grants before token descriptor opened) (filled : Filled before after)
    (free : ¬ host.IsShadowed after token) :
    ∃ opened, host.Grants after token descriptor opened := by
  cases grants with
  | descriptor named _ shown isOpen =>
      exact ⟨_, .descriptor named free ((showsDescriptors_filled filled).2 shown) isOpen⟩
  | file named proper leads vacant parent =>
      refine ⟨_, .file named proper ((leadsTo_filled filled).2 leads) ?_
        (filled.get?_of_kept parent nofun)⟩
      by_contra found
      obtain ⟨entry, found⟩ := Option.ne_none_iff_exists'.1 found
      exact free ⟨_, entry, (leadsTo_filled filled).2 leads, found⟩

theorem Overlooked.filled (overlooked : host.Overlooked before token)
    (filled : Filled before after) {descriptor : Descriptor} {opened : FileTree} :
    ¬ host.Grants after token descriptor opened := by
  intro grants
  obtain ⟨_, before⟩ := grants.of_filled filled
  exact overlooked.not_grants before

/-- What is overlooked depends on the entries alone. -/
theorem Overlooked.of_sameEntries (overlooked : host.Overlooked before token)
    (same : after.SameEntries before) : host.Overlooked after token := by
  have unshadowed (free : ¬ host.IsShadowed before token) : ¬ host.IsShadowed after token :=
    mt (IsShadowed.filled same.symm.filled) free
  have passes : host.Passes after token := by
    cases overlooked.passes with
    | descriptor named free shown =>
        exact .descriptor named (unshadowed free) ((showsDescriptors_filled same.filled).2 shown)
    | file named free => exact .file named (unshadowed free)
  rcases passes.grants_or_overlooked with ⟨descriptor, opened, grants⟩ | still
  · exact absurd grants (overlooked.filled same.filled)
  · exact still

end Host
end StatelessPgp
