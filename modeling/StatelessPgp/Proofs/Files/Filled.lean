import StatelessPgp.Proofs.Files.Walk

/-!
# Trees with more files

Outputs are files that are made where there is nothing, or that are written over.  A path
leads to a location before this is done just if it does afterwards: what a walk goes
through are directories and links, and these stay.  A new file is made in a directory at
the end of such a walk.
-/

namespace StatelessPgp
namespace FileTree

/-- Where two trees differ, the later one has a file, and the earlier one a file or
nothing. -/
def Filled (before after : FileTree) : Prop :=
  ∀ location, after.get? location = before.get? location ∨
    (∃ data, after.get? location = some (.file data)) ∧
      ∀ entry, before.get? location = some entry → ∃ old, entry = .file old

/-- One file has been made or written. -/
structure Deposited (place : Location) (data : Bytes) (before after : FileTree) : Prop where
  free : ∀ entry, before.get? place = some entry → ∃ old, entry = .file old
  placed : after.get? place = some (.file data)
  elsewhere : ∀ location, location ≠ place → after.get? location = before.get? location

theorem SameEntries.filled {before after : FileTree} (same : after.SameEntries before) :
    Filled before after :=
  fun location => .inl (same location)

theorem SameEntries.symm {first second : FileTree} (same : first.SameEntries second) :
    second.SameEntries first :=
  fun location => (same location).symm

theorem leadsToDirectory_iff {tree : FileTree} {base : Location} {path : Path} :
    tree.leadsToDirectory base path = true ↔
      ∃ location, tree.resolve base path true = .ok location ∧ tree.IsDirectory location := by
  rw [leadsToDirectory, find]
  cases tree.resolve base path true with
  | error error => simp
  | ok location =>
      cases found : tree.get? location with
      | none => simp [IsDirectory, found]
      | some entry => cases entry <;> simp [IsDirectory, found]

namespace Filled

variable {first before after : FileTree} {base location : Location} {path : Path}

theorem refl (tree : FileTree) : Filled tree tree :=
  fun _ => .inl rfl

theorem trans (left : Filled first before) (right : Filled before after) :
    Filled first after := by
  intro location
  rcases right location with same | ⟨placed, former⟩
  · rw [same]
    exact left location
  · rcases left location with same | ⟨⟨data, written⟩, earlier⟩
    · rw [← same]
      exact .inr ⟨placed, former⟩
    · exact .inr ⟨placed, earlier⟩

theorem get?_of_ne_file (filled : Filled before after) {entry : Entry}
    (found : after.get? location = some entry) (other : ∀ data, entry ≠ .file data) :
    before.get? location = some entry := by
  rcases filled location with same | ⟨⟨data, placed⟩, -⟩
  · rw [← same, found]
  · rw [found] at placed
    exact absurd (Option.some.inj placed) (other data)

theorem get?_of_kept (filled : Filled before after) {entry : Entry}
    (found : before.get? location = some entry) (other : ∀ data, entry ≠ .file data) :
    after.get? location = some entry := by
  rcases filled location with same | ⟨-, former⟩
  · rw [same, found]
  · obtain ⟨old, same⟩ := former entry found
    exact absurd same (other old)

theorem ne_none (filled : Filled before after) (found : before.get? location ≠ none) :
    after.get? location ≠ none := by
  rcases filled location with same | ⟨⟨data, placed⟩, -⟩
  · rwa [same]
  · simp [placed]

/-- A walk meets the same directories and links.  Only where it fails, it may fail in
another way. -/
theorem descend_cases (filled : Filled before after) (followLast : Bool) (here : Location)
    (names : List Name) :
    after.descend followLast here names = before.descend followLast here names ∨
      (∃ error, before.descend followLast here names = .failed error) ∧
        ∃ error, after.descend followLast here names = .failed error := by
  induction names generalizing here with
  | nil => exact .inl rfl
  | cons name rest hypothesis =>
      by_cases skipped : name = [] ∨ name = Path.dot
      · simpa only [descend, skipped, if_true] using hypothesis here
      by_cases up : name = Path.dotDot
      · simpa only [up, descend_dotDot] using hypothesis here.dropLast
      by_cases long : maxNameLength < name.length
      · simp only [descend, skipped, up, long, if_true, if_false, true_or]
      rcases filled (here ++ [name]) with same | ⟨⟨data, placed⟩, former⟩
      · cases found : before.get? (here ++ [name]) with
        | none => exact .inl (by simp [descend, skipped, up, long, same, found])
        | some entry =>
            rw [found] at same
            cases entry with
            | directory | systemDirectory =>
                simpa only [descend, skipped, up, long, found, same, if_false] using
                  hypothesis (here ++ [name])
            | link | file | program | device =>
                exact .inl (by simp [descend, skipped, up, long, same, found])
      · -- A file ends a walk that had nothing to end at, or stops one that had to go on.
        cases found : before.get? (here ++ [name]) with
        | none =>
            cases rest with
            | nil => exact .inl (by simp [descend, skipped, up, long, placed, found])
            | cons => exact .inr (by simp [descend, skipped, up, long, placed, found])
        | some entry =>
            obtain ⟨old, rfl⟩ := former entry found
            exact .inl (by simp [descend, skipped, up, long, placed, found])

theorem walk_cases (filled : Filled before after) (followLast : Bool) (links : Nat)
    (here : Location) (names : List Name) :
    after.walk followLast links here names = before.walk followLast links here names ∨
      (∃ error, before.walk followLast links here names = .error error) ∧
        ∃ error, after.walk followLast links here names = .error error := by
  induction links generalizing here names with
  | zero =>
      rw [walk, walk]
      rcases filled.descend_cases followLast here names with same | ⟨⟨_, left⟩, _, right⟩
      · rw [same]
        exact .inl rfl
      · rw [left, right]
        exact .inr ⟨⟨_, rfl⟩, _, rfl⟩
  | succ links hypothesis =>
      rw [walk, walk]
      rcases filled.descend_cases followLast here names with same | ⟨⟨_, left⟩, _, right⟩
      · rw [same]
        cases before.descend followLast here names with
        | link directory target rest => exact hypothesis _ _
        | _ => exact .inl rfl
      · rw [left, right]
        exact .inr ⟨⟨_, rfl⟩, _, rfl⟩

/-- A path leads to the same locations. -/
theorem resolve_eq_ok_iff (filled : Filled before after) (followLast : Bool) :
    after.resolve base path followLast = .ok location ↔
      before.resolve base path followLast = .ok location := by
  rw [resolve, resolve]
  cases checkPath path with
  | error error => exact Iff.rfl
  | ok =>
      rcases filled.walk_cases followLast maxLinks (if path.isAbsolute then [] else base)
          path.names with same | ⟨⟨_, left⟩, _, right⟩
      · exact same ▸ Iff.rfl
      · rw [left, right]
        constructor <;> rintro ⟨⟩

theorem isDirectory_iff (filled : Filled before after) :
    after.IsDirectory location ↔ before.IsDirectory location := by
  constructor
  · rintro (ordinary | system)
    · exact .inl (filled.get?_of_ne_file ordinary nofun)
    · exact .inr (filled.get?_of_ne_file system nofun)
  · rintro (ordinary | system)
    · exact .inl (filled.get?_of_kept ordinary nofun)
    · exact .inr (filled.get?_of_kept system nofun)

/-- New files are no directories, so the paths to directories stay the same. -/
theorem leadsToDirectory_eq (filled : Filled before after) :
    after.leadsToDirectory base path = before.leadsToDirectory base path := by
  rw [Bool.eq_iff_iff, leadsToDirectory_iff, leadsToDirectory_iff]
  simp only [filled.resolve_eq_ok_iff, filled.isDirectory_iff]

end Filled

namespace Deposited

variable {place : Location} {data : Bytes} {before after : FileTree}

theorem filled (deposited : Deposited place data before after) : Filled before after := by
  intro location
  by_cases same : location = place
  · rw [same]
    exact .inr ⟨⟨data, deposited.placed⟩, deposited.free⟩
  · exact .inl (deposited.elsewhere location same)

theorem of_set (tree : FileTree) {place : Location} (data : Bytes) (inside : place ≠ [])
    (free : ∀ entry, tree.get? place = some entry → ∃ old, entry = .file old) :
    Deposited place data tree (tree.set place (.file data)) where
  free := free
  placed := tree.get?_set_self _ inside
  elsewhere _ differs := tree.get?_set_of_ne _ differs

/-- A file that is made and then written holds what has been written. -/
theorem overwrite {last : FileTree} {new : Bytes} (deposited : Deposited place data before after)
    (written : Deposited place new after last) : Deposited place new before last where
  free := deposited.free
  placed := written.placed
  elsewhere location differs :=
    (written.elsewhere location differs).trans (deposited.elsewhere location differs)

end Deposited

/-- There is a directory at every step of the way to a location. -/
def Grounded (tree : FileTree) (location : Location) : Prop :=
  ∀ part, part <+: location → tree.IsDirectory part

namespace Grounded

variable {tree : FileTree} {location : Location}

theorem root (tree : FileTree) : tree.Grounded [] := by
  intro part inside
  rw [List.prefix_nil.1 inside]
  exact tree.isDirectory_root

theorem dropLast (grounded : tree.Grounded location) : tree.Grounded location.dropLast :=
  fun part inside => grounded part (inside.trans (List.dropLast_prefix location))

theorem concat (grounded : tree.Grounded location) {name : Name}
    (found : tree.IsDirectory (location ++ [name])) : tree.Grounded (location ++ [name]) := by
  intro part inside
  rcases List.prefix_concat_iff.1 inside with rfl | inside
  · exact found
  · exact grounded part inside

theorem descend_grounded (followLast : Bool) {here : Location} (grounded : tree.Grounded here)
    (names : List Name) :
    match tree.descend followLast here names with
    | .at location => tree.Grounded location.dropLast
    | .link directory _ _ => tree.Grounded directory
    | .failed _ => True := by
  induction names generalizing here with
  | nil => exact grounded.dropLast
  | cons name rest hypothesis =>
      by_cases skipped : name = [] ∨ name = Path.dot
      · simpa only [descend, skipped, if_true] using hypothesis grounded
      by_cases up : name = Path.dotDot
      · simpa only [up, descend_dotDot] using hypothesis grounded.dropLast
      by_cases long : maxNameLength < name.length
      · simp only [descend, skipped, up, long, if_true, if_false]
      have last : (here ++ [name]).dropLast = here := List.dropLast_concat
      cases found : tree.get? (here ++ [name]) with
      | none => cases rest <;> simp [descend, skipped, up, long, found, grounded]
      | some entry =>
          cases entry with
          | directory =>
              simpa only [descend, skipped, up, long, found, if_false] using
                hypothesis (grounded.concat (.inl found))
          | systemDirectory =>
              simpa only [descend, skipped, up, long, found, if_false] using
                hypothesis (grounded.concat (.inr found))
          | link target =>
              cases rest <;> cases followLast <;>
                simp [descend, skipped, up, long, found, grounded]
          | file | program | device =>
              cases rest <;> simp [descend, skipped, up, long, found, grounded]

theorem walk_grounded {followLast : Bool} {links : Nat} {here : Location}
    (grounded : tree.Grounded here) {names : List Name}
    (leads : tree.walk followLast links here names = .ok location) :
    tree.Grounded location.dropLast := by
  induction links generalizing here names with
  | zero =>
      have kept := grounded.descend_grounded followLast names
      rw [walk] at leads
      cases halt : tree.descend followLast here names with
      | «at» found =>
          rw [halt] at leads kept
          exact Except.ok.inj leads ▸ kept
      | link directory target rest => simp [halt] at leads
      | failed error => simp [halt] at leads
  | succ links hypothesis =>
      have kept := grounded.descend_grounded followLast names
      rw [walk] at leads
      cases halt : tree.descend followLast here names with
      | «at» found =>
          rw [halt] at leads kept
          exact Except.ok.inj leads ▸ kept
      | link directory target rest =>
          rw [halt] at leads kept
          refine hypothesis ?_ leads
          split
          · exact root tree
          · exact kept
      | failed error => simp [halt] at leads

end Grounded

/-- The entry at the end of a path from the root lies in a directory. -/
theorem isDirectory_of_resolve {tree : FileTree} {base location : Location} {path : Path}
    {followLast : Bool} (absolute : path.isAbsolute = true)
    (leads : tree.resolve base path followLast = .ok location) :
    tree.IsDirectory location.dropLast := by
  rw [resolve, absolute] at leads
  cases checked : checkPath path with
  | error error => simp [checked] at leads
  | ok =>
      rw [checked] at leads
      exact (Grounded.root tree).walk_grounded leads _ (List.prefix_refl _)

section Vacancy

variable {tree : FileTree} {base location : Location} {path : Path}

theorem checkVacant_eq_ok_iff :
    tree.checkVacant location = .ok () ↔
      tree.get? location = none ∧ tree.get? location.dropLast ≠ some .systemDirectory := by
  rw [checkVacant]
  cases tree.get? location with
  | none => by_cases system : tree.get? location.dropLast = some .systemDirectory <;> simp [system]
  | some entry => simp

/-- A new file can be made just where a path leads to nothing in an ordinary directory,
if it could lead to anything but a directory. -/
theorem vacancy_eq_ok_iff (absolute : path.isAbsolute = true) :
    tree.vacancy base path = .ok location ↔
      path.endsAsDirectory = false ∧ tree.resolve base path false = .ok location ∧
        tree.get? location = none ∧ tree.get? location.dropLast = some .directory := by
  have ordinary (leads : tree.resolve base path false = .ok location) :
      tree.get? location.dropLast = some .directory ↔
        tree.get? location.dropLast ≠ some .systemDirectory := by
    rcases isDirectory_of_resolve absolute leads with found | found <;> simp [found]
  have exact : tree.vacancy base path = .ok location ↔
      path.endsAsDirectory = false ∧ tree.resolve base path false = .ok location ∧
        tree.checkVacant location = .ok () := by
    rw [vacancy, resolve]
    cases checkPath path with
    | error error => simp
    | ok =>
        dsimp only
        cases path.endsAsDirectory with
        | true =>
            rw [if_pos rfl]
            split <;> simp
        | false =>
            rw [if_neg Bool.false_ne_true]
            cases tree.walk false maxLinks (if path.isAbsolute = true then [] else base)
                path.names with
            | error error => simp
            | ok found =>
                dsimp only
                cases free : tree.checkVacant found with
                | error error =>
                    constructor
                    · rintro ⟨⟩
                    · rintro ⟨-, same, vacant⟩
                      cases same
                      cases free.symm.trans vacant
                | ok =>
                    refine ⟨fun same => ?_, fun leads => leads.2.1⟩
                    cases same
                    exact ⟨rfl, rfl, free⟩
  rw [exact, checkVacant_eq_ok_iff]
  refine and_congr_right fun _ => and_congr_right fun leads => and_congr_right fun _ => ?_
  exact (ordinary leads).symm

theorem descend_ne_occupied (followLast : Bool) (here : Location) (names : List Name) :
    tree.descend followLast here names ≠ .failed .occupied := by
  induction names generalizing here with
  | nil => rintro ⟨⟩
  | cons name rest hypothesis =>
      by_cases skipped : name = [] ∨ name = Path.dot
      · simpa only [descend, skipped, if_true] using hypothesis here
      by_cases up : name = Path.dotDot
      · simpa only [up, descend_dotDot] using hypothesis here.dropLast
      by_cases long : maxNameLength < name.length
      · simp only [descend, skipped, up, long, if_true, if_false]
        decide
      cases found : tree.get? (here ++ [name]) with
      | none =>
          cases rest with
          | nil => simp [descend, skipped, up, long, found]
          | cons next rest =>
              have halts : tree.descend followLast here (name :: next :: rest) =
                  .failed .noEntry := by simp [descend, skipped, up, long, found]
              rw [halts]
              decide
      | some entry =>
          cases entry with
          | directory | systemDirectory =>
              simpa only [descend, skipped, up, long, found, if_false] using
                hypothesis (here ++ [name])
          | link target =>
              cases rest <;> cases followLast <;>
                simp [descend, skipped, up, long, found]
          | file | program | device =>
              cases rest with
              | nil => simp [descend, skipped, up, long, found]
              | cons next rest =>
                  have halts : tree.descend followLast here (name :: next :: rest) =
                      .failed .notDirectory := by simp [descend, skipped, up, long, found]
                  rw [halts]
                  decide

/-- No walk fails for the reason that an entry is in the way. -/
theorem walk_ne_occupied (followLast : Bool) (links : Nat) (here : Location)
    (names : List Name) : tree.walk followLast links here names ≠ .error .occupied := by
  induction links generalizing here names with
  | zero =>
      rw [walk]
      cases halt : tree.descend followLast here names with
      | failed error =>
          rintro ⟨⟩
          exact tree.descend_ne_occupied followLast here names halt
      | _ => rintro ⟨⟩
  | succ links hypothesis =>
      rw [walk]
      cases halt : tree.descend followLast here names with
      | failed error =>
          rintro ⟨⟩
          exact tree.descend_ne_occupied followLast here names halt
      | link directory target rest => exact hypothesis _ _
      | «at» location => rintro ⟨⟩

/-- Making a file does not fail for that reason either where a path leads to nothing. -/
theorem vacancy_ne_occupied
    (free : ∀ location, tree.resolve base path false = .ok location →
      tree.get? location = none) : tree.vacancy base path ≠ .error .occupied := by
  rw [resolve] at free
  rw [vacancy]
  cases checked : checkPath path with
  | error error =>
      rintro ⟨⟩
      rw [checkPath] at checked
      repeat' split at checked
      all_goals cases checked
  | ok =>
      rw [checked] at free
      dsimp only at free ⊢
      split
      · split
        · next failed =>
            rintro ⟨⟩
            exact tree.walk_ne_occupied _ _ _ _ failed
        · decide
      · split
        · next failed =>
            rintro ⟨⟩
            exact tree.walk_ne_occupied _ _ _ _ failed
        · next location leads =>
            rw [checkVacant, free location leads]
            simp only [Option.isSome_none, Bool.false_eq_true, if_false]
            split <;> rintro ⟨⟩

end Vacancy

end FileTree
end StatelessPgp
