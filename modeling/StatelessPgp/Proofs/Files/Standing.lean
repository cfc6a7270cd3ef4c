import StatelessPgp.Proofs.Files.Entry

/-!
# Standing directories

A directory is found under its own location when there is a directory at every step of
the way.  Then the path of an entry in it leads to the entry itself, and nothing on the
way can lead elsewhere.
-/

namespace StatelessPgp

open FileTree

namespace Path

/-- The names between the slashes in the path of a location are those of the
location. -/
theorem filter_pieces_ofLocation {location : Location}
    (proper : ∀ name ∈ location, IsProper name) :
    (ofLocation location).pieces.filter (!·.isEmpty) = location := by
  have named (names : Location) (proper : ∀ name ∈ names, IsProper name) :
      (pieces (names.flatMap (slash :: ·))).filter (!·.isEmpty) = names := by
    induction names using List.reverseRecOn with
    | nil => rfl
    | append_singleton names name hypothesis =>
        have last : IsProper name := proper name (by simp)
        have earlier := hypothesis fun other member => proper other (by simp [member])
        have cut := cutAt_append slash (names.flatMap (slash :: ·)) name
        rw [List.flatMap_append, List.flatMap_singleton, pieces, cut, List.filter_append,
          cutAt_of_not_mem last.slash_not_mem]
        rw [pieces] at earlier
        simp [earlier, last.ne_nil]
  cases location with
  | nil => rfl
  | cons name rest => exact named (name :: rest) proper

end Path

namespace FileTree

/-- A location can be walked to: its names are proper and short, and there is a
directory at every step. -/
structure Standing (tree : FileTree) (location : Location) : Prop where
  proper : ∀ name ∈ location, Path.IsProper name
  short : ∀ name ∈ location, name.length ≤ maxNameLength
  made : ∀ part, part <+: location → tree.IsDirectory part

theorem descend_directories {tree : FileTree} {names : List Name} (followLast : Bool)
    (here : Location) (proper : ∀ name ∈ names, Path.IsProper name)
    (short : ∀ name ∈ names, name.length ≤ maxNameLength)
    (made : ∀ part, part <+: names → tree.IsDirectory (here ++ part)) (rest : List Name) :
    tree.descend followLast here (names ++ rest) =
      tree.descend followLast (here ++ names) rest := by
  induction names generalizing here with
  | nil => simp
  | cons name names hypothesis =>
      have first := proper name (by simp)
      have long : ¬ maxNameLength < name.length := Nat.not_lt.2 (short name (by simp))
      have entered (part : Location) (inside : part <+: names) :
          tree.IsDirectory (here ++ [name] ++ part) := by
        have below := made (name :: part) (List.cons_prefix_cons.2 ⟨rfl, inside⟩)
        simpa using below
      have deeper := hypothesis (here ++ [name])
        (fun other member => proper other (.tail _ member))
        (fun other member => short other (.tail _ member)) entered
      rw [List.append_assoc, List.singleton_append] at deeper
      rw [← deeper]
      have found := made [name] (by simp)
      rcases found with found | found <;>
        simp [descend, first.ne_nil, first.ne_dot, first.ne_dotDot, long, found]

/-- The path of an entry of a standing directory leads to the entry itself, also where
that is a link. -/
theorem Standing.resolve_join {tree : FileTree} {directory : Location} {name : Name}
    (standing : tree.Standing directory) (proper : Path.IsProper name)
    (short : name.length ≤ maxNameLength) (base : Location)
    (usable : checkPath ((Path.ofLocation directory).join name) = .ok ()) :
    tree.resolve base ((Path.ofLocation directory).join name) false =
      .ok (directory ++ [name]) := by
  have begins := Path.isAbsolute_ofLocation directory
  have inside : Path.ofLocation directory ≠ [] := by
    intro empty
    rw [empty] at begins
    cases begins
  have entered : tree.walk false maxLinks [] (directory ++ [name]) =
      tree.walk false maxLinks directory [name] := by
    have passed := descend_directories false [] standing.proper standing.short
      standing.made [name]
    rw [walk.eq_def, walk.eq_def, passed, List.nil_append]
  rw [resolve, usable, Path.isAbsolute_join begins, if_pos rfl, Path.names_join inside proper,
    Path.filter_pieces_ofLocation standing.proper]
  rw [entered]
  exact tree.walk_entry false proper short fun follows => absurd follows Bool.false_ne_true

end FileTree

end StatelessPgp
