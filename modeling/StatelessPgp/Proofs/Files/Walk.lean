import Mathlib.Data.List.Induction
import Mathlib.Tactic.SplitIfs
import StatelessPgp.Files.Tree

/-!
# Walks to a new directory

A directory is made where there is nothing, and afterwards only what is below it
changes.  Then every path that led to its location still leads there, through the
same links: a walk only goes on at entries that exist, and none of those is the new
directory or lies below it.
-/

namespace StatelessPgp
namespace FileTree

/-- A tree has a directory where another one has nothing, and is the same as that one
but for the directory and what is below it. -/
structure Grafted (place : Location) (before after : FileTree) : Prop where
  vacant : before.get? place = none
  made : after.get? place = some .directory
  outside : ∀ location, ¬ place <+: location → after.get? location = before.get? location

theorem isDirectory_root (tree : FileTree) : tree.IsDirectory [] :=
  .inl tree.get?_root

theorem descend_dotDot (tree : FileTree) (followLast : Bool) (here : Location)
    (rest : List Name) :
    tree.descend followLast here (Path.dotDot :: rest) =
      tree.descend followLast here.dropLast rest := by
  rw [descend, if_neg (by decide), if_pos rfl]

theorem IsDirectory.ne_none {tree : FileTree} {location : Location}
    (isDirectory : tree.IsDirectory location) : tree.get? location ≠ none := by
  rcases isDirectory with found | found <;> simp [found]

/-- Where a walk leads depends on the entries alone. -/
theorem SameEntries.resolveName_eq {first second : FileTree}
    (same : first.SameEntries second) (base : Location) (path : Path) :
    first.resolveName base path = second.resolveName base path := by
  have descend_eq (here : Location) (names : List Name) :
      first.descend false here names = second.descend false here names := by
    induction names generalizing here with
    | nil => rfl
    | cons name rest hypothesis => simp only [descend, hypothesis, same _]
  have walk_eq (links : Nat) (here : Location) (names : List Name) :
      first.walk false links here names = second.walk false links here names := by
    induction links generalizing here names with
    | zero => rw [walk, walk, descend_eq]
    | succ links hypothesis =>
        rw [walk, walk, descend_eq]
        simp only [hypothesis]
  simp only [resolveName, walk_eq]

namespace Closed

variable {tree : FileTree} {location place : Location}

theorem isDirectory_dropLast (closed : tree.Closed)
    (isDirectory : tree.IsDirectory location) : tree.IsDirectory location.dropLast := by
  rcases List.eq_nil_or_concat location with rfl | ⟨parent, name, rfl⟩
  · exact isDirectory
  · rw [List.concat_eq_append] at isDirectory ⊢
    rw [List.dropLast_concat]
    exact closed parent name isDirectory.ne_none

/-- There is nothing below a location at which there is nothing. -/
theorem get?_eq_none (closed : tree.Closed) (vacant : tree.get? place = none)
    (below : place <+: location) : tree.get? location = none := by
  obtain ⟨rest, rfl⟩ := below
  induction rest using List.reverseRecOn with
  | nil => rwa [List.append_nil]
  | append_singleton rest name hypothesis =>
      by_contra found
      rw [← List.append_assoc] at found
      exact (closed _ _ found).ne_none hypothesis

end Closed

/-- A tree is closed if the listed entries lie in directories. -/
theorem closed_of_entries {tree : FileTree}
    (nests : ∀ entry ∈ tree.entries, tree.IsDirectory entry.1.dropLast) : tree.Closed := by
  intro location name found
  rw [get?_of_ne_root _ (by simp)] at found
  obtain ⟨entry, present⟩ := Option.ne_none_iff_exists'.1 found
  obtain ⟨before, after, split, -⟩ := List.lookup_eq_some_iff.1 present
  have lies := nests (location ++ [name], entry) (by simp [split])
  rwa [List.dropLast_concat] at lies

/-- A tree is closed if all its entries lie in the root. -/
theorem closed_of_shallow {tree : FileTree}
    (shallow : ∀ entry ∈ tree.entries, entry.1.length = 1) : tree.Closed := by
  refine closed_of_entries fun entry member => ?_
  have root : entry.1.dropLast = [] :=
    List.length_eq_zero_iff.1 (by rw [List.length_dropLast, shallow entry member])
  rw [root]
  exact tree.isDirectory_root

namespace Grafted

variable {place : Location} {before after : FileTree}

theorem get?_of_some (grafted : Grafted place before after) (closed : before.Closed)
    {location : Location} {entry : Entry} (found : before.get? location = some entry) :
    after.get? location = some entry := by
  rw [grafted.outside location, found]
  intro below
  rw [closed.get?_eq_none grafted.vacant below] at found
  cases found

/-- A walk that ends at the new directory goes on from there when more names follow,
and one that comes to a link comes to the same link. -/
theorem descend_append (grafted : Grafted place before after) (closed : before.Closed)
    (followLast : Bool) {here : Location} (isDirectory : before.IsDirectory here)
    (names tail : List Name) :
    match before.descend false here names with
    | .at location => location = place →
        after.descend followLast here (names ++ tail) =
          after.descend followLast place tail
    | .link directory target rest => before.IsDirectory directory ∧
        after.descend followLast here (names ++ tail) =
          .link directory target (rest ++ tail)
    | .failed _ => True := by
  induction names generalizing here with
  | nil =>
      rintro rfl
      rfl
  | cons name rest hypothesis =>
      by_cases skipped : name = [] ∨ name = Path.dot
      · simpa only [List.cons_append, descend, skipped, if_true] using hypothesis isDirectory
      by_cases up : name = Path.dotDot
      · rw [up, List.cons_append, descend_dotDot, descend_dotDot]
        exact hypothesis (closed.isDirectory_dropLast isDirectory)
      by_cases long : maxNameLength < name.length
      · simp only [descend, skipped, up, long, if_true, if_false]
      cases found : before.get? (here ++ [name]) with
      | none =>
          cases rest with
          | nil =>
              -- Only here does the walk come to the place that is vacant before.
              simp only [List.cons_append, List.nil_append, descend, skipped, up, long,
                found, if_false, List.isEmpty_nil, if_true]
              intro same
              simp only [same, grafted.made]
          | cons next rest =>
              simp [descend, skipped, up, long, found]
      | some entry =>
          -- What the walk meets on its way exists before, and so it has not changed.
          have same := grafted.get?_of_some closed found
          have elsewhere : here ++ [name] ≠ place := by
            intro same
            rw [same, grafted.vacant] at found
            cases found
          cases entry with
          | directory =>
              simpa only [List.cons_append, descend, skipped, up, long, found, same,
                if_false] using hypothesis (.inl found)
          | systemDirectory =>
              simpa only [List.cons_append, descend, skipped, up, long, found, same,
                if_false] using hypothesis (.inr found)
          | link target =>
              cases rest with
              | nil => simp [descend, skipped, up, long, found, elsewhere]
              | cons next rest =>
                  simp [descend, skipped, up, long, found, same, isDirectory]
          | file data | program data | device =>
              cases rest <;> simp [descend, skipped, up, long, found, elsewhere]

/-- The same for walks that follow links. -/
theorem walk_append (grafted : Grafted place before after) (closed : before.Closed)
    (followLast : Bool) {links : Nat} {here : Location}
    (isDirectory : before.IsDirectory here) {names : List Name}
    (leads : before.walk false links here names = .ok place) (tail : List Name) :
    ∃ left, after.walk followLast links here (names ++ tail) =
      after.walk followLast left place tail := by
  induction links generalizing here names with
  | zero =>
      have kept := grafted.descend_append closed followLast isDirectory names tail
      rw [walk] at leads
      cases halt : before.descend false here names with
      | «at» location =>
          rw [halt] at leads kept
          refine ⟨0, ?_⟩
          rw [walk, walk, kept (Except.ok.inj leads)]
      | link directory target rest => simp [halt] at leads
      | failed error => simp [halt] at leads
  | succ links hypothesis =>
      have kept := grafted.descend_append closed followLast isDirectory names tail
      rw [walk] at leads
      cases halt : before.descend false here names with
      | «at» location =>
          rw [halt] at leads kept
          refine ⟨links + 1, ?_⟩
          rw [walk, walk, kept (Except.ok.inj leads)]
      | link directory target rest =>
          rw [halt] at leads kept
          have start : before.IsDirectory (if target.isAbsolute then [] else directory) := by
            split
            · exact before.isDirectory_root
            · exact kept.1
          obtain ⟨left, same⟩ := hypothesis start leads
          refine ⟨left, ?_⟩
          rw [walk, kept.2, ← same, List.append_assoc]
      | failed error => simp [halt] at leads

end Grafted

/-- What it takes for a path to name a location from anywhere. -/
theorem resolveName_eq_ok {tree : FileTree} {base location : Location} {path : Path}
    (absolute : path.isAbsolute = true) :
    tree.resolveName base path = .ok location ↔
      checkPath path = .ok () ∧
        tree.walk false maxLinks [] (path.pieces.filter (!·.isEmpty)) = .ok location := by
  rw [resolveName, Path.filter_names, absolute, if_pos rfl]
  cases checkPath path with
  | error error => simp
  | ok => simp

/-- What is left when a file has been removed. -/
theorem removeFile_eq_ok {tree removed : FileTree} {base : Location} {path : Path}
    (done : tree.removeFile base path = .ok removed) :
    ∃ location, tree.resolveName base path = .ok location ∧
      removed = tree.erase location := by
  unfold removeFile at done
  split at done
  · cases done
  · next location resolved =>
      refine ⟨location, resolved, ?_⟩
      split at done
      · cases done
      · cases done
      · cases done
      · split at done
        · cases done
        · exact (Except.ok.inj done).symm

theorem checkPath_ne_nil {path : Path} (checked : checkPath path = .ok ()) :
    path ≠ [] := by
  rintro rfl
  cases checked

/-- One more proper name leads to the entry of that name. -/
theorem walk_singleton (tree : FileTree) {links : Nat} {place location : Location}
    {name : Name} (proper : Path.IsProper name)
    (leads : tree.walk false links place [name] = .ok location) :
    location = place ++ [name] := by
  have entered : tree.descend false place [name] = .at (place ++ [name]) ∨
      tree.descend false place [name] = .failed .nameTooLong := by
    by_cases long : maxNameLength < name.length
    · simp [descend, proper.ne_nil, proper.ne_dot, proper.ne_dotDot, long]
    · cases found : tree.get? (place ++ [name]) with
      | none => simp [descend, proper.ne_nil, proper.ne_dot, proper.ne_dotDot, found, long]
      | some entry =>
          cases entry <;>
            simp [descend, proper.ne_nil, proper.ne_dot, proper.ne_dotDot, found, long]
  rw [walk.eq_def] at leads
  rcases entered with entered | entered <;> rw [entered] at leads
  · exact (Except.ok.inj leads).symm
  · cases leads

namespace Grafted

variable {place : Location} {before after : FileTree} {base : Location} {path : Path}

/-- The path of the new directory still leads to it. -/
theorem resolve_eq (grafted : Grafted place before after) (closed : before.Closed)
    (absolute : path.isAbsolute = true) (leads : before.resolveName base path = .ok place) :
    after.resolve base path false = .ok place := by
  obtain ⟨checked, leads⟩ := (resolveName_eq_ok absolute).1 leads
  obtain ⟨left, same⟩ := grafted.walk_append closed false before.isDirectory_root leads
    (if path.getLast? == some Path.slash then [[]] else [])
  have ends : after.walk false left place
      (if path.getLast? == some Path.slash then [[]] else []) = .ok place := by
    rw [walk.eq_def]
    split_ifs <;> simp [descend]
  rw [resolve, checked, absolute, if_pos rfl, Path.names]
  exact same.trans ends

theorem removeDirectory_eq (grafted : Grafted place before after)
    (closed : before.Closed) (absolute : path.isAbsolute = true)
    (leads : before.resolveName base path = .ok place) :
    after.removeDirectory base path = after.prune place := by
  have found : after.find base path false = .ok (place, .directory) := by
    simp only [find, grafted.resolve_eq closed absolute leads, grafted.made]
  rw [removeDirectory, found]

theorem resolveName_eq (grafted : Grafted place before after) (closed : before.Closed)
    (absolute : path.isAbsolute = true) (leads : before.resolveName base path = .ok place) :
    after.resolveName base path = .ok place := by
  obtain ⟨checked, leads⟩ := (resolveName_eq_ok absolute).1 leads
  obtain ⟨left, same⟩ := grafted.walk_append closed false before.isDirectory_root leads []
  have ends : after.walk false left place [] = .ok place := by
    rw [walk.eq_def]
    rfl
  rw [List.append_nil] at same
  exact (resolveName_eq_ok absolute).2 ⟨checked, same.trans ends⟩

/-- The path of a file in the new directory leads into it. -/
theorem resolveName_join (grafted : Grafted place before after) (closed : before.Closed)
    (absolute : path.isAbsolute = true) (leads : before.resolveName base path = .ok place)
    {name : Name} (proper : Path.IsProper name) {location : Location}
    (joined : after.resolveName base (path.join name) = .ok location) :
    location = place ++ [name] := by
  obtain ⟨checked, leads⟩ := (resolveName_eq_ok absolute).1 leads
  obtain ⟨-, joined⟩ := (resolveName_eq_ok (Path.isAbsolute_join absolute name)).1 joined
  rw [Path.filter_pieces_join (checkPath_ne_nil checked) proper] at joined
  obtain ⟨left, same⟩ := grafted.walk_append closed false before.isDirectory_root leads [name]
  exact after.walk_singleton proper (same.symm.trans joined)

/-- A file in the new directory can be removed and nothing else is touched. -/
theorem erase (grafted : Grafted place before after) {location : Location}
    (below : place <+: location) (inside : location ≠ place) :
    Grafted place before (after.erase location) where
  vacant := grafted.vacant
  made := by rw [after.get?_erase_of_ne inside.symm, grafted.made]
  outside := by
    intro other notBelow
    have differs : other ≠ location := by
      rintro rfl
      exact notBelow below
    rw [after.get?_erase_of_ne differs, grafted.outside other notBelow]

theorem of_sameEntries {middle : FileTree} (same : middle.SameEntries before)
    (grafted : Grafted place middle after) : Grafted place before after where
  vacant := (same place).symm.trans grafted.vacant
  made := grafted.made
  outside := by
    intro location apart
    rw [grafted.outside location apart, same location]

/-- Without the new directory and what is below it, the tree is what it was. -/
theorem sameEntries_prune (grafted : Grafted place before after)
    (closed : before.Closed) : (after.prune place).SameEntries before := by
  intro location
  by_cases below : place <+: location
  · rw [after.get?_prune_of_prefix below, closed.get?_eq_none grafted.vacant below]
    rintro rfl
    cases (List.prefix_nil.1 below) ▸ grafted.vacant
  · rw [after.get?_prune_of_not_prefix below, grafted.outside location below]

end Grafted

/-- A directory that has been made is new. -/
theorem createDirectory_eq_ok {tree made : FileTree} {base location : Location}
    {path : Path} (done : tree.createDirectory base path = .ok (location, made)) :
    tree.resolveName base path = .ok location ∧ Grafted location tree made := by
  unfold createDirectory at done
  split at done
  · cases done
  · next place resolved =>
      cases checked : tree.checkVacant place with
      | error error => simp [checked, Except.map] at done
      | ok =>
          rw [checked] at done
          obtain ⟨rfl, rfl⟩ := Prod.mk.inj (Except.ok.inj done)
          have vacant : tree.get? place = none := by
            unfold checkVacant at checked
            split at checked
            · cases checked
            · next free => simpa using free
          have inside : place ≠ [] := by
            rintro rfl
            cases vacant
          refine ⟨resolved, vacant, tree.get?_set_self _ inside, ?_⟩
          intro other apart
          apply tree.get?_set_of_ne
          rintro rfl
          exact apart (List.prefix_refl _)

/-- Every entry of a tree is one of another tree. -/
def IsPart (part whole : FileTree) : Prop :=
  ∀ location entry, part.get? location = some entry → whole.get? location = some entry

theorem IsPart.refl (tree : FileTree) : tree.IsPart tree :=
  fun _ _ found => found

theorem IsPart.trans {first second third : FileTree} (left : first.IsPart second)
    (right : second.IsPart third) : first.IsPart third :=
  fun location entry found => right location entry (left location entry found)

theorem isPart_erase (tree : FileTree) (location : Location) :
    (tree.erase location).IsPart tree := by
  intro other entry found
  by_cases same : other = location
  · subst same
    by_cases root : other = []
    · subst root
      exact found
    · rw [tree.get?_erase_self root] at found
      cases found
  · rwa [tree.get?_erase_of_ne same] at found

theorem isPart_prune (tree : FileTree) (location : Location) :
    (tree.prune location).IsPart tree := by
  intro other entry found
  by_cases below : location <+: other
  · by_cases root : other = []
    · subst root
      exact found
    · rw [tree.get?_prune_of_prefix below root] at found
      cases found
  · rwa [tree.get?_prune_of_not_prefix below] at found

section

variable {tree : FileTree} {here location : Location} {names : List Name}

/-- Whether a link at the end is followed only matters to a walk that ends at one. -/
theorem descend_followed (unlinked : ∀ place target,
    tree.descend false here names = .at place → tree.get? place ≠ some (.link target)) :
    tree.descend true here names = tree.descend false here names := by
  induction names generalizing here with
  | nil => rfl
  | cons name rest hypothesis =>
      by_cases skipped : name = [] ∨ name = Path.dot
      · simp only [descend, skipped, if_true] at unlinked ⊢
        exact hypothesis unlinked
      by_cases up : name = Path.dotDot
      · subst up
        simp only [descend_dotDot] at unlinked ⊢
        exact hypothesis unlinked
      by_cases long : maxNameLength < name.length
      · simp only [descend, skipped, up, long, if_true, if_false]
      · simp only [descend, skipped, up, long, if_false] at unlinked ⊢
        cases found : tree.get? (here ++ [name]) with
        | none => rfl
        | some entry =>
            rw [found] at unlinked
            cases entry with
            | directory | systemDirectory => exact hypothesis unlinked
            | link target =>
                cases rest with
                | nil => exact absurd found (unlinked _ target rfl)
                | cons => rfl
            | file | program | device => rfl

theorem walk_followed {links : Nat} (leads : tree.walk false links here names = .ok location)
    (unlinked : ∀ target, tree.get? location ≠ some (.link target)) :
    tree.walk true links here names = .ok location := by
  induction links generalizing here names with
  | zero =>
      rw [walk] at leads ⊢
      rw [descend_followed, leads]
      intro place target reached
      rw [reached] at leads
      cases leads
      exact unlinked target
  | succ links hypothesis =>
      rw [walk] at leads ⊢
      have same : tree.descend true here names = tree.descend false here names := by
        apply descend_followed
        intro place target reached
        rw [reached] at leads
        cases leads
        exact unlinked target
      rw [same]
      cases halt : tree.descend false here names with
      | link directory target rest =>
          rw [halt] at leads
          exact hypothesis leads
      | «at» | failed =>
          rw [halt] at leads
          exact leads

/-- What a path leads to without following a link at its end, it also leads to otherwise. -/
theorem find_followed {base : Location} {path : Path} {data : Bytes}
    (leads : tree.resolve base path false = .ok location)
    (found : tree.get? location = some (.file data)) :
    tree.find base path true = .ok (location, .file data) := by
  have followed : tree.resolve base path true = .ok location := by
    rw [resolve] at leads ⊢
    split at leads
    · cases leads
    · exact walk_followed leads (by simp [found])
  rw [find, followed]
  dsimp only
  rw [found]

end

end FileTree
end StatelessPgp
