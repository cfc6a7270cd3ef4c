import StatelessPgp.Proofs.Files.Siblings

/-!
# Walks past a removed entry

An entry that is no directory is only on the way to other entries if it is a link.  Without the
entry, all walks that do not go through it lead where they led before.  One that goes through a
link goes on in a directory, and so a link that leads to a file or nowhere can be removed as well.
-/

namespace StatelessPgp
namespace FileTree

variable {tree : FileTree} {base place : Location}

/-- Without an entry that is no directory, a walk comes to the same location or link, unless the
entry was that link. -/
theorem descend_erase (removable : ¬ tree.IsDirectory place) (here : Location)
    (names : List Name) :
    match tree.descend false here names with
    | .at location => (tree.erase place).descend false here names = .at location
    | .link directory target rest =>
        (tree.erase place).descend false here names = .link directory target rest ∨
          place.dropLast = directory ∧ tree.get? place = some (.link target) ∧ rest ≠ []
    | .failed _ => True := by
  induction names generalizing here with
  | nil => rfl
  | cons name rest hypothesis =>
      by_cases skipped : name = [] ∨ name = Path.dot
      · simpa only [descend, skipped, if_true] using hypothesis here
      by_cases up : name = Path.dotDot
      · simpa only [up, descend_dotDot] using hypothesis here.dropLast
      by_cases long : maxNameLength < name.length
      · simp only [descend, skipped, up, long, if_true, if_false]
      by_cases same : here ++ [name] = place
      · subst same
        have erased : (tree.erase (here ++ [name])).get? (here ++ [name]) = none :=
          tree.get?_erase_self (by simp)
        cases found : tree.get? (here ++ [name]) with
        | none => cases rest <;> simp [descend, skipped, up, long, found, erased]
        | some entry =>
            cases entry with
            | directory => exact absurd (.inl found) removable
            | systemDirectory => exact absurd (.inr found) removable
            | link | file | program | device =>
                cases rest <;> simp [descend, skipped, up, long, found, erased]
      · have kept := tree.get?_erase_of_ne same
        cases found : tree.get? (here ++ [name]) with
        | none => cases rest <;> simp [descend, skipped, up, long, found, kept]
        | some entry =>
            cases entry with
            | directory | systemDirectory =>
                simpa only [descend, skipped, up, long, found, kept, if_false] using
                  hypothesis (here ++ [name])
            | link | file | program | device =>
                cases rest <;> simp [descend, skipped, up, long, found, kept]

/-- A walk leads to the same location when an entry that is no directory is removed, unless it
goes on after a link that was the entry. -/
theorem walk_erase (removable : ¬ tree.IsDirectory place) {links : Nat} {here location : Location}
    {names : List Name} (leads : tree.walk false links here names = .ok location) :
    (tree.erase place).walk false links here names = .ok location ∨
      ∃ left target rest, tree.get? place = some (.link target) ∧ rest ≠ [] ∧
        tree.walk false left (if target.isAbsolute then [] else place.dropLast)
          (target.names ++ rest) = .ok location := by
  induction links generalizing here names with
  | zero =>
      have same := tree.descend_erase removable here names
      rw [walk] at leads ⊢
      cases halt : tree.descend false here names with
      | «at» found =>
          rw [halt] at leads same
          rw [same]
          exact .inl leads
      | link directory target rest => simp [halt] at leads
      | failed error => simp [halt] at leads
  | succ links hypothesis =>
      have same := tree.descend_erase removable here names
      rw [walk] at leads ⊢
      cases halt : tree.descend false here names with
      | «at» found =>
          rw [halt] at leads same
          rw [same]
          exact .inl leads
      | link directory target rest =>
          rw [halt] at leads same
          rcases same with same | ⟨rfl, found, further⟩
          · rw [same]
            exact hypothesis leads
          · exact .inr ⟨links, target, rest, found, further, leads⟩
      | failed error => simp [halt] at leads

/-- A walk goes on in a directory: it does not if its first names lead elsewhere. -/
theorem descend_onward (closed : tree.Closed) {here : Location}
    (isDirectory : tree.IsDirectory here) (names : List Name) {rest : List Name}
    (further : rest ≠ []) :
    match tree.descend true here names with
    | .at location => tree.IsDirectory location ∨
        ∃ error, tree.descend false here (names ++ rest) = .failed error
    | .link directory target others => tree.IsDirectory directory ∧
        tree.descend false here (names ++ rest) = .link directory target (others ++ rest)
    | .failed error => tree.descend false here (names ++ rest) = .failed error := by
  induction names generalizing here with
  | nil => exact .inl isDirectory
  | cons name others hypothesis =>
      by_cases skipped : name = [] ∨ name = Path.dot
      · simpa only [List.cons_append, descend, skipped, if_true] using hypothesis isDirectory
      by_cases up : name = Path.dotDot
      · simpa only [up, List.cons_append, descend_dotDot] using
          hypothesis (closed.isDirectory_dropLast isDirectory)
      by_cases long : maxNameLength < name.length
      · simp only [List.cons_append, descend, skipped, up, long, if_true, if_false]
      cases found : tree.get? (here ++ [name]) with
      | none => cases others <;> simp [descend, skipped, up, long, found, further]
      | some entry =>
          cases entry with
          | directory =>
              simpa only [List.cons_append, descend, skipped, up, long, found, if_false] using
                hypothesis (.inl found)
          | systemDirectory =>
              simpa only [List.cons_append, descend, skipped, up, long, found, if_false] using
                hypothesis (.inr found)
          | link target =>
              cases others <;> simp [descend, skipped, up, long, found, further, isDirectory]
          | file | program | device =>
              cases others <;> simp [descend, skipped, up, long, found, further]

theorem walk_onward (closed : tree.Closed) {left : Nat} {here location : Location}
    (isDirectory : tree.IsDirectory here) {names rest : List Name} (further : rest ≠ [])
    (leads : tree.walk false left here (names ++ rest) = .ok location) (links : Nat) :
    tree.walk true links here names = .error .tooManyLinks ∨
      ∃ directory, tree.walk true links here names = .ok directory ∧
        tree.IsDirectory directory := by
  induction links generalizing left here names with
  | zero =>
      have onward := tree.descend_onward closed isDirectory names further
      rw [walk.eq_def] at leads ⊢
      cases halt : tree.descend true here names with
      | «at» found =>
          rw [halt] at onward
          rcases onward with arrived | ⟨error, fails⟩
          · exact .inr ⟨found, rfl, arrived⟩
          · simp [fails] at leads
      | link directory target others => exact .inl rfl
      | failed error =>
          rw [halt] at onward
          simp [onward] at leads
  | succ links hypothesis =>
      have onward := tree.descend_onward closed isDirectory names further
      rw [walk.eq_def] at leads ⊢
      cases halt : tree.descend true here names with
      | «at» found =>
          rw [halt] at onward
          rcases onward with arrived | ⟨error, fails⟩
          · exact .inr ⟨found, rfl, arrived⟩
          · simp [fails] at leads
      | link directory target others =>
          rw [halt] at onward
          rw [onward.2] at leads
          cases left with
          | zero => cases leads
          | succ left =>
              have start : tree.IsDirectory (if target.isAbsolute then [] else directory) := by
                split
                · exact tree.isDirectory_root
                · exact onward.1
              dsimp only at leads
              rw [← List.append_assoc] at leads
              exact hypothesis start leads
      | failed error =>
          rw [halt] at onward
          simp [onward] at leads

/-- Reading what a link leads to fails if the link is on the way to something else. -/
theorem read_of_passed (closed : tree.Closed) {path : Path} (absolute : path.isAbsolute = true)
    {name : Name} (proper : Path.IsProper name) {target : Path}
    (names : tree.resolveName base (path.join name) = .ok place)
    (link : tree.get? place = some (.link target)) {left : Nat} {rest : List Name}
    {location : Location} (further : rest ≠ [])
    (leads : tree.walk false left (if target.isAbsolute then [] else place.dropLast)
      (target.names ++ rest) = .ok location) :
    ∃ error : SystemError, tree.read base (path.join name) = .error error ∧
      error.isMissing = false := by
  have inside : path ≠ [] := by
    rintro rfl
    cases absolute
  have begins := Path.isAbsolute_join absolute name
  obtain ⟨usable, walked⟩ := (resolveName_eq_ok begins).1 names
  rw [Path.filter_pieces_join inside proper] at walked
  rcases tree.walk_concat closed tree.isDirectory_root (path.pieces.filter (!·.isEmpty)) with
    ⟨links, directory, found, same⟩ | ⟨error, fails⟩
  · rw [same] at walked
    obtain rfl := tree.walk_singleton proper walked
    rw [List.dropLast_concat] at leads
    have start : tree.IsDirectory (if target.isAbsolute then [] else directory) := by
      split
      · exact tree.isDirectory_root
      · exact found
    have comes : tree.descend true directory [name] = .link directory target [] := by
      have short : ¬ maxNameLength < name.length := by
        intro long
        simp [walk.eq_def, descend, proper.ne_nil, proper.ne_dot, proper.ne_dotDot, long] at walked
      simp [descend, proper.ne_nil, proper.ne_dot, proper.ne_dotDot, short, link]
    have resolved : tree.resolve base (path.join name) true =
        tree.walk true links directory [name] := by
      rw [resolve, usable, begins, if_pos rfl, Path.names_join inside proper]
      exact same true name
    rw [read, find, resolved, walk.eq_def, comes]
    cases links with
    | zero => exact ⟨.tooManyLinks, rfl, rfl⟩
    | succ links =>
        dsimp only
        rw [List.append_nil]
        rcases tree.walk_onward closed start further leads links with
          tooMany | ⟨reached, arrives, isDirectory⟩
        · rw [tooMany]
          exact ⟨.tooManyLinks, rfl, rfl⟩
        · rw [arrives]
          refine ⟨.isDirectory, ?_, rfl⟩
          rcases isDirectory with stands | stands <;> simp [stands, Entry.contents]
  · rw [fails] at walked
    cases walked

theorem not_isDirectory_of_removeFile {removed : FileTree} {path : Path}
    (done : tree.removeFile base path = .ok removed)
    (names : tree.resolveName base path = .ok place) : ¬ tree.IsDirectory place := by
  rw [removeFile, names] at done
  rintro (stands | stands) <;> simp [stands] at done

/-- A path still names its location after an entry beside it was removed, if reading that entry
did not fail, or only because it led nowhere. -/
theorem resolveName_beside (closed : tree.Closed) {path : Path}
    (absolute : path.isAbsolute = true) {first second : Name} (left : Path.IsProper first)
    (right : Path.IsProper second) (differs : second ≠ first) {location : Location}
    {removed : FileTree} (done : tree.removeFile base (path.join first) = .ok removed)
    (readable : ∀ error : SystemError, tree.read base (path.join first) = .error error →
      error.isMissing = true)
    (leads : tree.resolveName base (path.join second) = .ok location) :
    removed.resolveName base (path.join second) = .ok location ∧
      removed.get? location = tree.get? location := by
  have inside : path ≠ [] := by
    rintro rfl
    cases absolute
  obtain ⟨place, names, rfl⟩ := removeFile_eq_ok done
  have removable := not_isDirectory_of_removeFile done names
  obtain ⟨-, walked⟩ := (resolveName_eq_ok (Path.isAbsolute_join absolute first)).1 names
  obtain ⟨usable, reached⟩ := (resolveName_eq_ok (Path.isAbsolute_join absolute second)).1 leads
  constructor
  · refine (resolveName_eq_ok (Path.isAbsolute_join absolute second)).2 ⟨usable, ?_⟩
    rcases tree.walk_erase removable reached with
      kept | ⟨links, target, rest, link, further, onward⟩
    · exact kept
    · obtain ⟨error, fails, present⟩ :=
        tree.read_of_passed closed absolute left names link further onward
      cases present.symm.trans (readable error fails)
  · rw [Path.filter_pieces_join inside left] at walked
    rw [Path.filter_pieces_join inside right] at reached
    rcases tree.walk_concat closed tree.isDirectory_root (path.pieces.filter (!·.isEmpty)) with
      ⟨links, directory, -, same⟩ | ⟨error, fails⟩
    · rw [same] at walked reached
      rw [tree.walk_singleton left walked, tree.walk_singleton right reached]
      apply tree.get?_erase_of_ne
      intro equal
      exact differs (List.singleton_inj.1 (List.append_cancel_left equal))
    · rw [fails] at walked
      cases walked

end FileTree
end StatelessPgp
