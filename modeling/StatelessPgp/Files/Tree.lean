import StatelessPgp.Failure.System
import StatelessPgp.Files.Path
import StatelessPgp.Lookup

/-!
# The file system

A tree of files is a finite map from locations to entries; the root is always a
directory.  A path is followed name by name, through symbolic links up to a limit.
Each operation either returns the tree it leaves behind or the error with which
the system refuses it.
-/

namespace StatelessPgp

/-- An entry of a directory. -/
inductive Entry where
  | file (data : Bytes)
  /-- A file that can be run, with its contents. -/
  | program (data : Bytes)
  | directory
  /-- A directory that the system keeps; nothing can be made in it. -/
  | systemDirectory
  /-- A symbolic link with its target. -/
  | link (target : Path)
  /-- A device that swallows what is written to it and holds nothing. -/
  | device
  deriving DecidableEq, Repr

/-- A tree of files. -/
structure FileTree where
  /-- The entries below the root.  Of several at one location the first counts. -/
  entries : List (Location × Entry)
  deriving DecidableEq, Repr

/-- How a walk along a path ends or is interrupted. -/
inductive Halt where
  /-- At a location; its directory exists, and it may itself be free. -/
  | at (location : Location)
  /-- At a link, with the directory that the link lies in and the names after
  it. -/
  | link (directory : Location) (target : Path) (rest : List Name)
  | failed (error : SystemError)
  deriving DecidableEq, Repr

namespace FileTree

def empty : FileTree := ⟨[]⟩

def get? (tree : FileTree) (location : Location) : Option Entry :=
  if location = [] then some .directory else tree.entries.lookup location

def erase (tree : FileTree) (location : Location) : FileTree :=
  ⟨tree.entries.filter fun entry => decide (entry.1 ≠ location)⟩

/-- The tree without a location and everything below it. -/
def prune (tree : FileTree) (location : Location) : FileTree :=
  ⟨tree.entries.filter fun entry => !location.isPrefixOf entry.1⟩

def set (tree : FileTree) (location : Location) (entry : Entry) : FileTree :=
  ⟨(location, entry) :: (tree.erase location).entries⟩

@[simp] theorem get?_root (tree : FileTree) : tree.get? [] = some .directory := rfl

theorem get?_of_ne_root (tree : FileTree) {location : Location}
    (inside : location ≠ []) :
    tree.get? location = tree.entries.lookup location := by
  simp [get?, inside]

theorem get?_erase_self (tree : FileTree) {location : Location}
    (inside : location ≠ []) : (tree.erase location).get? location = none := by
  rw [get?_of_ne_root _ inside]
  exact lookup_filter_self location tree.entries

theorem get?_erase_of_ne (tree : FileTree) {location other : Location}
    (differs : other ≠ location) :
    (tree.erase location).get? other = tree.get? other := by
  by_cases inside : other = []
  · simp [inside]
  · rw [get?_of_ne_root _ inside, get?_of_ne_root _ inside]
    exact lookup_filter_of_ne differs tree.entries

theorem get?_prune_of_not_prefix (tree : FileTree) {location other : Location}
    (apart : ¬ location <+: other) :
    (tree.prune location).get? other = tree.get? other := by
  by_cases inside : other = []
  · simp [inside]
  · have kept : (!location.isPrefixOf other) = true := by
      simpa [← List.isPrefixOf_iff_prefix] using apart
    rw [get?_of_ne_root _ inside, get?_of_ne_root _ inside]
    exact lookup_filter_of_pos (fun place => !location.isPrefixOf place) kept tree.entries

theorem get?_prune_of_prefix (tree : FileTree) {location other : Location}
    (below : location <+: other) (inside : other ≠ []) :
    (tree.prune location).get? other = none := by
  rw [get?_of_ne_root _ inside]
  exact lookup_filter_of_neg (fun place => !location.isPrefixOf place)
    (by simpa using below) tree.entries

theorem get?_set_self (tree : FileTree) {location : Location} (entry : Entry)
    (inside : location ≠ []) :
    (tree.set location entry).get? location = some entry := by
  rw [get?_of_ne_root _ inside]
  simp [set]

theorem get?_set_of_ne (tree : FileTree) {location other : Location} (entry : Entry)
    (differs : other ≠ location) :
    (tree.set location entry).get? other = tree.get? other := by
  by_cases inside : other = []
  · simp [inside]
  · have apart : (other == location) = false := by simpa using differs
    rw [← tree.get?_erase_of_ne differs, get?_of_ne_root _ inside,
      get?_of_ne_root _ inside, set, List.lookup_cons, apart]

/-- Place an entry below a directory, with the directories that lead to it. -/
def plant (tree : FileTree) (directory : Location) (entry : Entry) :
    List Name → FileTree
  | [] => tree
  | [name] => tree.set (directory ++ [name]) entry
  | name :: rest =>
      let there := directory ++ [name]
      plant (if (tree.get? there).isSome then tree else tree.set there .directory)
        there entry rest

/-- The locations below a directory with their entries. -/
def below (tree : FileTree) (location : Location) : List (Location × Entry) :=
  tree.entries.filterMap fun (place, entry) =>
    if location.isPrefixOf place && place != location then
      some (place.drop location.length, entry)
    else none

def maxNameLength : Nat := 255

def maxPathLength : Nat := 4095

def maxLinks : Nat := 40

/-- Walk along names up to the first link that has to be followed. -/
def descend (tree : FileTree) (followLast : Bool) (here : Location) :
    List Name → Halt
  | [] => .at here
  | name :: rest =>
      if name = [] ∨ name = Path.dot then descend tree followLast here rest
      else if name = Path.dotDot then descend tree followLast here.dropLast rest
      else if maxNameLength < name.length then .failed .nameTooLong
      else
        let there := here ++ [name]
        match tree.get? there with
        | none => if rest.isEmpty then .at there else .failed .noEntry
        | some .directory | some .systemDirectory =>
            descend tree followLast there rest
        | some (.link target) =>
            if rest.isEmpty && !followLast then .at there
            else .link here target rest
        | some (.file _) | some (.program _) | some .device =>
            if rest.isEmpty then .at there else .failed .notDirectory

/-- Walk along names, following so many links. -/
def walk (tree : FileTree) (followLast : Bool) (links : Nat) (here : Location)
    (names : List Name) : Except SystemError Location :=
  match tree.descend followLast here names with
  | .at location => .ok location
  | .failed error => .error error
  | .link directory target rest =>
      match links with
      | 0 => .error .tooManyLinks
      | links + 1 =>
          walk tree followLast links (if target.isAbsolute then [] else directory)
            (target.names ++ rest)

/-- Refuse a path that the system does not even look at. -/
def checkPath (path : Path) : Except SystemError Unit :=
  if path.contains 0 then
    .error (.said "file name contained an unexpected NUL byte")
  else if path.isEmpty then .error .noEntry
  else if maxPathLength < path.length then .error .nameTooLong
  else .ok ()

/-- The location that a path leads to from a directory.  There may be no entry
at it. -/
def resolve (tree : FileTree) (base : Location) (path : Path)
    (followLast : Bool) : Except SystemError Location :=
  match checkPath path with
  | .error error => .error error
  | .ok () =>
      tree.walk followLast maxLinks (if path.isAbsolute then [] else base)
        path.names

/-- The location of the entry that a path names itself.  A slash at the end asks for
a directory there, but does not lead through a link. -/
def resolveName (tree : FileTree) (base : Location) (path : Path) :
    Except SystemError Location :=
  match checkPath path with
  | .error error => .error error
  | .ok () =>
      tree.walk false maxLinks (if path.isAbsolute then [] else base)
        (path.names.filter (!·.isEmpty))

/-- The location and the entry that a path leads to. -/
def find (tree : FileTree) (base : Location) (path : Path)
    (followLast : Bool) : Except SystemError (Location × Entry) :=
  match tree.resolve base path followLast with
  | .error error => .error error
  | .ok location =>
      match tree.get? location with
      | none => .error .noEntry
      | some entry => .ok (location, entry)

/-- Whether there is an entry at the end of a path, be it a link. -/
def exists? (tree : FileTree) (base : Location) (path : Path) : Bool :=
  (tree.find base path false).toOption.isSome

/-- Whether a path leads to a directory. -/
def leadsToDirectory (tree : FileTree) (base : Location) (path : Path) : Bool :=
  match tree.find base path true with
  | .ok (_, .directory) | .ok (_, .systemDirectory) => true
  | _ => false

/-- What can be read from an entry. -/
def Entry.contents : Entry → Except SystemError Bytes
  | .file data => .ok data
  | .program data => .ok data
  | .device => .ok []
  | .directory | .systemDirectory => .error .isDirectory
  | .link _ => .error .tooManyLinks

def read (tree : FileTree) (base : Location) (path : Path) :
    Except SystemError Bytes :=
  match tree.find base path true with
  | .error error => .error error
  | .ok (_, entry) => Entry.contents entry

/-- Check that an entry can be made at a location. -/
def checkVacant (tree : FileTree) (location : Location) : Except SystemError Unit :=
  if (tree.get? location).isSome then .error .occupied
  else if tree.get? location.dropLast = some .systemDirectory then .error .noEntry
  else .ok ()

/-- The location at which a path allows a new file.  A path that can only lead to
a directory allows none, but the directory in which it would lie is looked up. -/
def vacancy (tree : FileTree) (base : Location) (path : Path) :
    Except SystemError Location :=
  match checkPath path with
  | .error error => .error error
  | .ok () =>
      let start := if path.isAbsolute then [] else base
      if path.endsAsDirectory then
        match tree.walk false maxLinks start (path.names.dropLast.dropLast ++ [[]]) with
        | .error error => .error error
        | .ok _ => .error .isDirectory
      else
        match tree.walk false maxLinks start path.names with
        | .error error => .error error
        | .ok location => (tree.checkVacant location).map fun () => location

/-- Create an empty file where there is no entry. -/
def createFile (tree : FileTree) (base : Location) (path : Path) :
    Except SystemError (Location × FileTree) :=
  match tree.vacancy base path with
  | .error error => .error error
  | .ok location => .ok (location, tree.set location (.file []))

/-- Make a directory where there is no entry. -/
def createDirectory (tree : FileTree) (base : Location) (path : Path) :
    Except SystemError (Location × FileTree) :=
  match tree.resolveName base path with
  | .error error => .error error
  | .ok location =>
      (tree.checkVacant location).map fun () => (location, tree.set location .directory)

/-- Write a whole file, which is created if there is none. -/
def write (tree : FileTree) (base : Location) (path : Path) (data : Bytes) :
    Except SystemError FileTree :=
  match tree.resolve base path true with
  | .error error => .error error
  | .ok location =>
      match tree.get? location with
      | some .directory | some .systemDirectory => .error .isDirectory
      | some (.program _) => .error .busy
      | some .device => .ok tree
      | some (.file _) | some (.link _) => .ok (tree.set location (.file data))
      | none => (tree.checkVacant location).map fun () => tree.set location (.file data)

/-- Remove an entry that is no directory.  A path with a slash at the end removes
nothing. -/
def removeFile (tree : FileTree) (base : Location) (path : Path) :
    Except SystemError FileTree :=
  match tree.resolveName base path with
  | .error error => .error error
  | .ok location =>
      match tree.get? location with
      | none => .error .noEntry
      | some .directory | some .systemDirectory => .error .isDirectory
      | some _ =>
          if path.getLast? = some Path.slash then .error .notDirectory
          else .ok (tree.erase location)

/-- Remove a directory with everything below it; do nothing where there is
none. -/
def removeDirectory (tree : FileTree) (base : Location) (path : Path) : FileTree :=
  match tree.find base path false with
  | .ok (location, .directory) => tree.prune location
  | _ => tree

/-- Data written over the start of other data. -/
def overlay (data old : Bytes) : Bytes :=
  data ++ old.drop data.length

def IsDirectory (tree : FileTree) (location : Location) : Prop :=
  tree.get? location = some .directory ∨ tree.get? location = some .systemDirectory

/-- Every entry lies in a directory. -/
def Closed (tree : FileTree) : Prop :=
  ∀ location name, tree.get? (location ++ [name]) ≠ none → tree.IsDirectory location

/-- Two trees have the same entries. -/
def SameEntries (first second : FileTree) : Prop :=
  ∀ location, first.get? location = second.get? location

end FileTree
end StatelessPgp
