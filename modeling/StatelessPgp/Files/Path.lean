import StatelessPgp.Text.Utf8

/-!
# Paths

A path is a sequence of bytes, cut at slashes into names.  A location is the list
of names that leads from the root to an entry, without detours.
-/

namespace StatelessPgp

/-- A path as programs write it. -/
abbrev Path := Bytes

/-- The name of an entry in its directory. -/
abbrev Name := Bytes

/-- The names from the root down to an entry. -/
abbrev Location := List Name

namespace Path

/-- The byte between names. -/
def slash : UInt8 := 47

/-- The name that stands for the directory itself. -/
def dot : Name := [46]

/-- The name that stands for the directory above. -/
def dotDot : Name := [46, 46]

def ofText (text : String) : Path :=
  Text.encode text

/-- The text of a path as messages show it. -/
def display (path : Path) : String :=
  Text.decodeLossy path

def isAbsolute (path : Path) : Bool :=
  path.head? == some slash

/-- The pieces of data between bytes of one kind; always at least one. -/
def cutAt (mark : UInt8) : Bytes → List Bytes
  | [] => [[]]
  | byte :: rest =>
      match cutAt mark rest with
      | [] => [[byte]]
      | piece :: others =>
          if byte = mark then [] :: piece :: others
          else (byte :: piece) :: others

theorem cutAt_ne_nil (mark : UInt8) (data : Bytes) : cutAt mark data ≠ [] := by
  cases data with
  | nil => simp [cutAt]
  | cons byte rest =>
      rw [cutAt]
      split
      · simp
      · split <;> simp

theorem cutAt_of_not_mem {mark : UInt8} {data : Bytes} (absent : mark ∉ data) :
    cutAt mark data = [data] := by
  induction data with
  | nil => rfl
  | cons byte rest hypothesis =>
      obtain ⟨differs, absent⟩ : mark ≠ byte ∧ mark ∉ rest := by simpa using absent
      rw [cutAt, hypothesis absent]
      simp [Ne.symm differs]

theorem cutAt_append (mark : UInt8) (before after : Bytes) :
    cutAt mark (before ++ mark :: after) = cutAt mark before ++ cutAt mark after := by
  induction before with
  | nil =>
      obtain ⟨piece, others, cut⟩ := List.exists_cons_of_ne_nil (cutAt_ne_nil mark after)
      simp [cutAt, cut]
  | cons byte before hypothesis =>
      obtain ⟨piece, others, cut⟩ := List.exists_cons_of_ne_nil (cutAt_ne_nil mark before)
      rw [List.cons_append, cutAt, cutAt, hypothesis, cut]
      by_cases same : byte = mark <;> simp [same]

/-- The pieces of a path between slashes. -/
def pieces (path : Path) : List Name :=
  cutAt slash path

/-- The names in a path.  A slash at the end counts as an empty name, which, like
a dot, is only right after a directory. -/
def names (path : Path) : List Name :=
  path.pieces.filter (!·.isEmpty) ++
    (if path.getLast? == some slash then [[]] else [])

/-- Whether a path ends with a slash after a proper name, and so can only lead to a
directory. -/
def endsAsDirectory (path : Path) : Bool :=
  path.getLast? == some slash &&
    match (path.pieces.filter (!·.isEmpty)).getLast? with
    | none => false
    | some name => name != dot && name != dotDot

/-- A path continued by another one, unless that starts at the root. -/
def join (base path : Path) : Path :=
  if path.isAbsolute then path
  else if base.getLast? == some slash || base.isEmpty then base ++ path
  else base ++ slash :: path

theorem isAbsolute_join {base : Path} (absolute : base.isAbsolute = true) (path : Path) :
    (base.join path).isAbsolute = true := by
  cases base with
  | nil => cases absolute
  | cons byte rest =>
      rw [join]
      split
      · assumption
      · split <;> exact absolute

/-- The names that are not empty are those between the slashes. -/
theorem filter_names (path : Path) :
    path.names.filter (!·.isEmpty) = path.pieces.filter (!·.isEmpty) := by
  rw [names, List.filter_append, List.filter_filter]
  split <;> simp

/-- A name that stands for an entry of its own. -/
structure IsProper (name : Name) : Prop where
  ne_nil : name ≠ []
  slash_not_mem : slash ∉ name
  ne_dot : name ≠ dot
  ne_dotDot : name ≠ dotDot

theorem IsProper.isAbsolute_eq_false {name : Name} (proper : IsProper name) :
    Path.isAbsolute name = false := by
  cases name with
  | nil => rfl
  | cons byte rest =>
      have differs : slash ≠ byte := by
        intro same
        exact proper.slash_not_mem (by simp [same])
      simpa [isAbsolute] using Ne.symm differs

/-- Joining a proper name to a path appends it to the names. -/
theorem filter_pieces_join {path : Path} {name : Name} (inside : path ≠ [])
    (proper : IsProper name) :
    (path.join name).pieces.filter (!·.isEmpty) =
      path.pieces.filter (!·.isEmpty) ++ [name] := by
  have alone : [name].filter (!·.isEmpty) = [name] := by
    simp [proper.ne_nil]
  have cut := cutAt_of_not_mem proper.slash_not_mem
  rw [join, proper.isAbsolute_eq_false]
  by_cases ends : path.getLast? = some slash
  · obtain ⟨start, rfl⟩ := List.getLast?_eq_some_iff.1 ends
    have joined := cutAt_append slash start name
    have closed := cutAt_append slash start []
    simp only [pieces, ends, beq_self_eq_true, Bool.true_or, if_true, Bool.false_eq_true,
      if_false, List.append_assoc, List.singleton_append, joined, closed, cut,
      List.filter_append, alone]
    simp [cutAt]
  · simp [pieces, ends, inside, cutAt_append, cut, proper.ne_nil]

def ofLocation (location : Location) : Path :=
  if location.isEmpty then [slash] else location.flatMap (slash :: ·)

theorem isAbsolute_ofLocation (location : Location) :
    (ofLocation location).isAbsolute = true := by
  cases location <;> rfl

end Path
end StatelessPgp
