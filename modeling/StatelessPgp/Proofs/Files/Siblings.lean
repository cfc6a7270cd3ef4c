import StatelessPgp.Proofs.Files.Entry

/-!
# Entries of one directory

Paths that differ in the last name alone lead to entries of one directory, or none of
them leads anywhere.  Where such a path leads is not changed by entries that are added to
the tree.
-/

namespace StatelessPgp

open FileTree

namespace Path

theorem length_join_congr (path : Path) {first second : Name} (left : IsProper first)
    (right : IsProper second) (length : first.length = second.length) :
    (path.join first).length = (path.join second).length := by
  rw [join, join, left.isAbsolute_eq_false, right.isAbsolute_eq_false]
  by_cases direct : (path.getLast? == some slash || path.isEmpty) = true <;>
    simp [direct, length]

theorem contains_join_congr (path : Path) {first second : Name} (left : IsProper first)
    (right : IsProper second) {byte : UInt8}
    (same : first.contains byte = second.contains byte) :
    (path.join first).contains byte = (path.join second).contains byte := by
  rw [List.contains_eq_mem, List.contains_eq_mem] at same
  rw [join, join, left.isAbsolute_eq_false, right.isAbsolute_eq_false]
  by_cases direct : (path.getLast? == some slash || path.isEmpty) = true <;>
    simp [direct, same]

end Path

namespace FileTree

variable {tree : FileTree} {base : Location}

/-- Before a walk looks up its last name, it does the same whatever that name is, and whether or
not a link there is followed. -/
theorem descend_concat (closed : tree.Closed) {here : Location}
    (isDirectory : tree.IsDirectory here) (names : List Name) :
    (∃ directory, tree.IsDirectory directory ∧
        ∀ followLast name, tree.descend followLast here (names ++ [name]) =
          tree.descend followLast directory [name]) ∨
      (∃ directory target rest, tree.IsDirectory directory ∧
        ∀ followLast name, tree.descend followLast here (names ++ [name]) =
          .link directory target (rest ++ [name])) ∨
      ∃ error, ∀ followLast name,
        tree.descend followLast here (names ++ [name]) = .failed error := by
  induction names generalizing here with
  | nil => exact .inl ⟨here, isDirectory, fun _ _ => rfl⟩
  | cons next rest hypothesis =>
      by_cases skipped : next = [] ∨ next = Path.dot
      · simpa only [List.cons_append, descend, skipped, if_true] using hypothesis isDirectory
      by_cases up : next = Path.dotDot
      · simpa only [up, List.cons_append, descend_dotDot] using
          hypothesis (closed.isDirectory_dropLast isDirectory)
      by_cases long : maxNameLength < next.length
      · refine .inr (.inr ⟨.nameTooLong, fun followLast name => ?_⟩)
        simp only [List.cons_append, descend, skipped, up, long, if_true, if_false]
      cases found : tree.get? (here ++ [next]) with
      | none =>
          refine .inr (.inr ⟨.noEntry, fun followLast name => ?_⟩)
          simp [descend, skipped, up, long, found]
      | some entry =>
          cases entry with
          | directory =>
              simpa only [List.cons_append, descend, skipped, up, long, found, if_false] using
                hypothesis (.inl found)
          | systemDirectory =>
              simpa only [List.cons_append, descend, skipped, up, long, found, if_false] using
                hypothesis (.inr found)
          | link target =>
              refine .inr (.inl ⟨here, target, rest, isDirectory, fun followLast name => ?_⟩)
              simp [descend, skipped, up, long, found]
          | file | program | device =>
              refine .inr (.inr ⟨.notDirectory, fun followLast name => ?_⟩)
              simp [descend, skipped, up, long, found]

theorem walk_concat (closed : tree.Closed) {links : Nat} {here : Location}
    (isDirectory : tree.IsDirectory here) (names : List Name) :
    (∃ left directory, tree.IsDirectory directory ∧
        ∀ followLast name, tree.walk followLast links here (names ++ [name]) =
          tree.walk followLast left directory [name]) ∨
      ∃ error, ∀ followLast name,
        tree.walk followLast links here (names ++ [name]) = .error error := by
  induction links generalizing here names with
  | zero =>
      rcases tree.descend_concat closed isDirectory names with
        ⟨directory, found, same⟩ | ⟨directory, target, rest, -, same⟩ | ⟨error, same⟩
      · refine .inl ⟨0, directory, found, fun followLast name => ?_⟩
        rw [walk, walk, same]
      · refine .inr ⟨.tooManyLinks, fun followLast name => ?_⟩
        rw [walk, same]
      · refine .inr ⟨error, fun followLast name => ?_⟩
        rw [walk, same]
  | succ links hypothesis =>
      rcases tree.descend_concat closed isDirectory names with
        ⟨directory, found, same⟩ | ⟨directory, target, rest, found, same⟩ | ⟨error, same⟩
      · refine .inl ⟨links + 1, directory, found, fun followLast name => ?_⟩
        rw [walk, walk, same]
      · have start : tree.IsDirectory (if target.isAbsolute then [] else directory) := by
          split
          · exact tree.isDirectory_root
          · exact found
        have followed (followLast : Bool) (name : Name) :
            tree.walk followLast (links + 1) here (names ++ [name]) =
              tree.walk followLast links (if target.isAbsolute then [] else directory)
                (target.names ++ rest ++ [name]) := by
          rw [walk, same, List.append_assoc]
        simpa only [followed] using hypothesis start (target.names ++ rest)
      · refine .inr ⟨error, fun followLast name => ?_⟩
        rw [walk, same]

/-- Proper names that are joined to a path all lead into one directory, or all of them
lead nowhere. -/
theorem resolveName_join (closed : tree.Closed) {path : Path}
    (absolute : path.isAbsolute = true) :
    (∃ directory, tree.IsDirectory directory ∧
        ∀ name, Path.IsProper name → name.length ≤ maxNameLength →
          checkPath (path.join name) = .ok () →
            tree.resolveName base (path.join name) = .ok (directory ++ [name])) ∨
      ∃ error, ∀ name, Path.IsProper name → checkPath (path.join name) = .ok () →
        tree.resolveName base (path.join name) = .error error := by
  have inside : path ≠ [] := by
    rintro rfl
    cases absolute
  have resolved (name : Name) (proper : Path.IsProper name)
      (usable : checkPath (path.join name) = .ok ()) :
      tree.resolveName base (path.join name) =
        tree.walk false maxLinks [] (path.pieces.filter (!·.isEmpty) ++ [name]) := by
    rw [resolveName, usable, Path.isAbsolute_join absolute, if_pos rfl, Path.filter_names,
      Path.filter_pieces_join inside proper]
  rcases tree.walk_concat closed tree.isDirectory_root (path.pieces.filter (!·.isEmpty)) with
    ⟨left, directory, found, same⟩ | ⟨error, same⟩
  · refine .inl ⟨directory, found, fun name proper short usable => ?_⟩
    rw [resolved name proper usable, same]
    exact tree.walk_entry false proper short fun follows =>
      absurd follows Bool.false_ne_true
  · refine .inr ⟨error, fun name proper usable => ?_⟩
    rw [resolved name proper usable, same]

namespace IsPart

variable {part whole : FileTree}

theorem isDirectory (inside : part.IsPart whole) {location : Location}
    (found : part.IsDirectory location) : whole.IsDirectory location := by
  rcases found with found | found
  · exact .inl (inside _ _ found)
  · exact .inr (inside _ _ found)

/-- A walk comes to the same location or link when entries are added: all that it passes
was there before. -/
theorem descend_eq (inside : part.IsPart whole) (here : Location) (names : List Name) :
    match part.descend false here names with
    | .failed _ => True
    | halt => whole.descend false here names = halt := by
  induction names generalizing here with
  | nil => rfl
  | cons name rest hypothesis =>
      by_cases skipped : name = [] ∨ name = Path.dot
      · simpa only [descend, skipped, if_true] using hypothesis here
      by_cases up : name = Path.dotDot
      · simpa only [up, descend_dotDot] using hypothesis here.dropLast
      by_cases long : maxNameLength < name.length
      · simp only [descend, skipped, up, long, if_true, if_false]
      cases found : part.get? (here ++ [name]) with
      | none =>
          cases rest with
          | nil =>
              cases added : whole.get? (here ++ [name]) with
              | none => simp [descend, skipped, up, long, found, added]
              | some entry =>
                  cases entry <;> simp [descend, skipped, up, long, found, added]
          | cons next rest => simp [descend, skipped, up, long, found]
      | some entry =>
          have same := inside _ _ found
          cases entry with
          | directory | systemDirectory =>
              simpa only [descend, skipped, up, long, found, same, if_false] using
                hypothesis (here ++ [name])
          | link | file | program | device =>
              cases rest <;> simp [descend, skipped, up, long, found, same]

theorem walk_eq (inside : part.IsPart whole) {links : Nat} {here location : Location}
    {names : List Name} (leads : part.walk false links here names = .ok location) :
    whole.walk false links here names = .ok location := by
  induction links generalizing here names with
  | zero =>
      have same := inside.descend_eq here names
      rw [walk] at leads ⊢
      cases halt : part.descend false here names with
      | «at» found =>
          rw [halt] at leads same
          rw [same]
          exact leads
      | link directory target rest => simp [halt] at leads
      | failed error => simp [halt] at leads
  | succ links hypothesis =>
      have same := inside.descend_eq here names
      rw [walk] at leads ⊢
      cases halt : part.descend false here names with
      | «at» found =>
          rw [halt] at leads same
          rw [same]
          exact leads
      | link directory target rest =>
          rw [halt] at leads same
          rw [same]
          exact hypothesis leads
      | failed error => simp [halt] at leads

theorem resolveName_eq (inside : part.IsPart whole) {path : Path} {location : Location}
    (leads : part.resolveName base path = .ok location) :
    whole.resolveName base path = .ok location := by
  unfold resolveName at leads ⊢
  cases checked : checkPath path with
  | error error => simp [checked] at leads
  | ok =>
      rw [checked] at leads
      exact inside.walk_eq leads

end IsPart

/-- Whether a path is looked at depends on its length and on the byte of zero. -/
theorem checkPath_congr {first second : Path} (length : first.length = second.length)
    (portable : first.contains 0 = second.contains 0) :
    checkPath first = checkPath second := by
  have empty : first.isEmpty = second.isEmpty := by
    rw [Bool.eq_iff_iff, List.isEmpty_iff_length_eq_zero, List.isEmpty_iff_length_eq_zero,
      length]
  rw [checkPath, checkPath, portable, empty, length]

theorem checkPath_join_congr (path : Path) {first second : Name}
    (left : Path.IsProper first) (right : Path.IsProper second)
    (length : first.length = second.length)
    (portable : first.contains 0 = second.contains 0) :
    checkPath (path.join first) = checkPath (path.join second) :=
  checkPath_congr (Path.length_join_congr path left right length)
    (Path.contains_join_congr path left right portable)

/-- The same for a file in directories whose names are equally long. -/
theorem checkPath_join_join_congr {path : Path} (absolute : path.isAbsolute = true)
    {first second name : Name} (left : Path.IsProper first) (right : Path.IsProper second)
    (proper : Path.IsProper name) (length : first.length = second.length)
    (portable : first.contains 0 = second.contains 0) :
    checkPath ((path.join first).join name) = checkPath ((path.join second).join name) := by
  have longer := Path.length_join_congr path left right length
  have free := Path.contains_join_congr path left right portable
  rw [Path.join_eq_append (Path.join_ne_nil absolute first) (Path.getLast?_join left) proper,
    Path.join_eq_append (Path.join_ne_nil absolute second) (Path.getLast?_join right) proper]
  rw [List.contains_eq_mem, List.contains_eq_mem] at free
  apply checkPath_congr
  · simp [longer]
  · simp [free]

end FileTree

end StatelessPgp
