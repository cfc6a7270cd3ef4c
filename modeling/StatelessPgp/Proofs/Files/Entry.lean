import StatelessPgp.Channels
import StatelessPgp.Proofs.Files.Walk

/-!
# Entries of a new directory

In a directory that is new, the path of an entry leads to the entry, whether the last
link would be followed or not.  What an operation on such a path does is then decided
by what stands there: nothing, a file with data, or a directory.
-/

namespace StatelessPgp

/-- What stands at the path of a file. -/
inductive Content where
  | nothing
  | data (bytes : Bytes)
  | directory
  deriving DecidableEq, Repr

namespace Content

/-- The entry that makes up a content. -/
def asEntry : Content → Option Entry
  | .nothing => none
  | .data bytes => some (.file bytes)
  | .directory => some .directory

/-- What can be read. -/
def read : Content → Except SystemError Bytes
  | .nothing => .error .noEntry
  | .data bytes => .ok bytes
  | .directory => .error .isDirectory

/-- What stands there when it has been discarded, which fails at a directory. -/
def discard : Content → Except SystemError Content
  | .nothing | .data _ => .ok .nothing
  | .directory => .error .isDirectory

/-- What stands there when data has been written, which fails at a directory. -/
def write (bytes : Bytes) : Content → Except SystemError Content
  | .nothing | .data _ => .ok (.data bytes)
  | .directory => .error .isDirectory

/-- What stands there when a directory has been made, which fails at anything. -/
def makeDirectory : Content → Except SystemError Content
  | .nothing => .ok .directory
  | .data _ | .directory => .error .occupied

end Content

namespace Path

theorem join_ne_nil {path : Path} (absolute : path.isAbsolute = true) (name : Name) :
    path.join name ≠ [] := by
  intro empty
  have begins := isAbsolute_join absolute name
  rw [empty] at begins
  cases begins

/-- A path joined with a proper name does not end with a slash. -/
theorem getLast?_join {path : Path} {name : Name} (proper : IsProper name) :
    (path.join name).getLast? ≠ some slash := by
  have last : (path.join name).getLast? = name.getLast? := by
    obtain ⟨final, ends⟩ := Option.isSome_iff_exists.1 (List.getLast?_isSome.2 proper.ne_nil)
    rw [join, proper.isAbsolute_eq_false]
    by_cases direct : (path.getLast? == some slash || path.isEmpty) = true <;>
      simp [direct, ends, List.getLast?_cons]
  rw [last]
  exact fun ends => proper.slash_not_mem (List.mem_of_getLast? ends)

theorem join_eq_append {path : Path} {name : Name} (inside : path ≠ [])
    (ends : path.getLast? ≠ some slash) (proper : IsProper name) :
    path.join name = path ++ slash :: name := by
  rw [join, proper.isAbsolute_eq_false]
  simp [inside, ends]

/-- Slashes in front of a path name nothing. -/
theorem filter_pieces_slashes (count : Nat) (path : Path) :
    (pieces (List.replicate count slash ++ path)).filter (!·.isEmpty) =
      path.pieces.filter (!·.isEmpty) := by
  induction count with
  | zero => rfl
  | succ count hypothesis =>
      have cut := cutAt_append slash [] (List.replicate count slash ++ path)
      rw [List.nil_append] at cut
      rw [List.replicate_succ, List.cons_append, pieces, cut, List.filter_append]
      exact hypothesis

theorem names_join {path : Path} {name : Name} (inside : path ≠ [])
    (proper : IsProper name) :
    (path.join name).names = path.pieces.filter (!·.isEmpty) ++ [name] := by
  rw [names, filter_pieces_join inside proper]
  simp [getLast?_join proper]

end Path

namespace FileTree

theorem checkPath_eq_ok {path : Path} (portable : 0 ∉ path) (inside : path ≠ [])
    (short : path.length ≤ maxPathLength) : checkPath path = .ok () := by
  have long : ¬ maxPathLength < path.length := Nat.not_lt.2 short
  simp [checkPath, portable, inside, long]

theorem checkPath_of_long {path : Path} (portable : 0 ∉ path)
    (long : maxPathLength < path.length) : checkPath path = .error .nameTooLong := by
  have inside : path ≠ [] := by
    rintro rfl
    exact Nat.not_lt_zero _ long
  simp [checkPath, portable, inside, long]

/-- A path leads to a location in a directory, and to what stands there unless that
is a link. -/
structure Reaches (tree : FileTree) (base : Location) (path : Path)
    (location : Location) : Prop where
  named : tree.resolveName base path = .ok location
  opened : (∀ target, tree.get? location ≠ some (.link target)) →
    tree.resolve base path true = .ok location
  inside : location ≠ []
  parent : tree.get? location.dropLast = some .directory
  proper : path.getLast? ≠ some Path.slash

/-- What an attempt does to the entry at a location; it touches no other entry. -/
inductive Changes (tree : FileTree) (location : Location) :
    Except SystemError Content → Except SystemError FileTree → Prop where
  | done {content : Content} {left : FileTree}
      (here : left.get? location = content.asEntry)
      (elsewhere : ∀ other, other ≠ location → left.get? other = tree.get? other) :
      Changes tree location (.ok content) (.ok left)
  | refused (error : SystemError) : Changes tree location (.error error) (.error error)

/-- The walk to an entry of a directory ends at the entry, unless it has to follow a
link there. -/
theorem walk_entry (tree : FileTree) (followLast : Bool) {links : Nat}
    {place : Location} {name : Name} (proper : Path.IsProper name)
    (short : name.length ≤ maxNameLength)
    (last : followLast = true → ∀ target, tree.get? (place ++ [name]) ≠ some (.link target)) :
    tree.walk followLast links place [name] = .ok (place ++ [name]) := by
  have long : ¬ maxNameLength < name.length := by omega
  have arrives : tree.descend followLast place [name] = .at (place ++ [name]) := by
    cases found : tree.get? (place ++ [name]) with
    | none => simp [descend, proper.ne_nil, proper.ne_dot, proper.ne_dotDot, long, found]
    | some entry =>
        cases entry with
        | link target =>
            cases followLast with
            | false => simp [descend, proper.ne_nil, proper.ne_dot, proper.ne_dotDot, long, found]
            | true => exact absurd found (last rfl target)
        | _ => simp [descend, proper.ne_nil, proper.ne_dot, proper.ne_dotDot, long, found]
  rw [walk.eq_def, arrives]

/-- A path without a slash at the end names what it leads to, if it follows no link there. -/
theorem resolveName_eq_resolve (tree : FileTree) (base : Location) {path : Path}
    (proper : path.getLast? ≠ some Path.slash) :
    tree.resolveName base path = tree.resolve base path false := by
  have names : path.names.filter (!·.isEmpty) = path.names := by simp [Path.names, proper]
  rw [resolveName, resolve, names]

/-- The path of an entry in a new directory leads to it. -/
theorem Grafted.reaches {place : Location} {before after : FileTree} {base : Location}
    {path : Path} (grafted : Grafted place before after) (closed : before.Closed)
    (absolute : path.isAbsolute = true) (leads : before.resolveName base path = .ok place)
    {name : Name} (proper : Path.IsProper name) (short : name.length ≤ maxNameLength)
    (usable : checkPath (path.join name) = .ok ()) :
    after.Reaches base (path.join name) (place ++ [name]) := by
  obtain ⟨checked, walked⟩ := (resolveName_eq_ok absolute).1 leads
  have begins := Path.isAbsolute_join absolute name
  have arrives (followLast : Bool) (last : followLast = true →
      ∀ target, after.get? (place ++ [name]) ≠ some (.link target)) :
      after.walk followLast maxLinks [] (path.pieces.filter (!·.isEmpty) ++ [name]) =
        .ok (place ++ [name]) := by
    obtain ⟨left, same⟩ :=
      grafted.walk_append closed followLast before.isDirectory_root walked [name]
    rw [same]
    exact after.walk_entry followLast proper short last
  refine ⟨?_, ?_, by simp, ?_, Path.getLast?_join proper⟩
  · rw [resolveName_eq_ok begins, Path.filter_pieces_join (checkPath_ne_nil checked) proper]
    exact ⟨usable, arrives false nofun⟩
  · intro last
    rw [resolve, usable, begins, if_pos rfl,
      Path.names_join (checkPath_ne_nil checked) proper]
    exact arrives true fun _ => last
  · rw [List.dropLast_concat]
    exact grafted.made

namespace Reaches

variable {tree : FileTree} {base location : Location} {path : Path} {content : Content}

theorem resolve_eq (reaches : tree.Reaches base path location)
    (stands : tree.get? location = content.asEntry) :
    tree.resolve base path true = .ok location := by
  apply reaches.opened
  intro target found
  rw [stands] at found
  cases content <;> cases found

theorem read_eq (reaches : tree.Reaches base path location)
    (stands : tree.get? location = content.asEntry) :
    tree.read base path = content.read := by
  rw [read, find, reaches.resolve_eq stands]
  dsimp only
  rw [stands]
  cases content <;> rfl

/-- There is nothing at the end of a path that leads to a vacant location. -/
theorem exists?_of_vacant (reaches : tree.Reaches base path location)
    (vacant : tree.get? location = none) : tree.exists? base path = false := by
  have found : tree.find base path false = .error .noEntry := by
    rw [find, ← resolveName_eq_resolve tree base reaches.proper, reaches.named]
    dsimp only
    rw [vacant]
  rw [exists?, found]
  rfl

theorem erases (tree : FileTree) {location : Location} (inside : location ≠ []) :
    Changes tree location (.ok .nothing) (.ok (tree.erase location)) :=
  .done (tree.get?_erase_self inside) fun _ differs => tree.get?_erase_of_ne differs

theorem sets (tree : FileTree) {location : Location} (inside : location ≠ [])
    {content : Content} {entry : Entry} (same : content.asEntry = some entry) :
    Changes tree location (.ok content) (.ok (tree.set location entry)) := by
  refine .done ?_ fun _ differs => tree.get?_set_of_ne entry differs
  rw [tree.get?_set_self entry inside, same]

theorem discard_changes (reaches : tree.Reaches base path location)
    (stands : tree.get? location = content.asEntry) :
    Changes tree location content.discard (tree.discard base path) := by
  rw [discard, removeFile, reaches.named]
  dsimp only
  rw [stands]
  cases content with
  | nothing => exact .done stands fun _ _ => rfl
  | data bytes =>
      simp only [Content.asEntry, reaches.proper, if_false]
      exact erases tree reaches.inside
  | directory => exact .refused _

theorem discard_of_vacant (reaches : tree.Reaches base path location)
    (vacant : tree.get? location = none) : tree.discard base path = .ok tree := by
  rw [discard, removeFile, reaches.named]
  dsimp only
  rw [vacant]
  rfl

theorem write_changes (reaches : tree.Reaches base path location)
    (stands : tree.get? location = content.asEntry) (bytes : Bytes) :
    Changes tree location (content.write bytes) (tree.write base path bytes) := by
  rw [write, reaches.resolve_eq stands]
  dsimp only
  rw [stands]
  cases content with
  | nothing =>
      have vacant : tree.checkVacant location = .ok () := by
        simp [checkVacant, stands, Content.asEntry, reaches.parent]
      simp only [Content.asEntry, vacant]
      exact sets tree reaches.inside rfl
  | data former => exact sets tree reaches.inside rfl
  | directory => exact .refused _

theorem makeDirectory_changes (reaches : tree.Reaches base path location)
    (stands : tree.get? location = content.asEntry) :
    Changes tree location content.makeDirectory
      ((tree.createDirectory base path).map Prod.snd) := by
  rw [createDirectory, reaches.named]
  dsimp only
  rw [checkVacant, stands]
  cases content with
  | nothing =>
      simp only [Content.asEntry, reaches.parent]
      exact sets tree reaches.inside rfl
  | data bytes => exact .refused _
  | directory => exact .refused _

end Reaches
end FileTree
end StatelessPgp
