import StatelessPgp.Lookup
import StatelessPgp.Text.Utf8

/-!
# Environments

An environment maps names of variables to values.  A program receives it as lines
`name=value` and cuts each line at the first `=` after its first byte, so that a
name that holds this mark arrives as a shorter one.
-/

namespace StatelessPgp

/-- The variables of a program. -/
structure Environment where
  entries : List (String × Bytes)
  /-- No two variables have the same name. -/
  distinct : (entries.map Prod.fst).Nodup
  deriving DecidableEq, Repr

namespace Environment

def empty : Environment := ⟨[], .nil⟩

def get? (environment : Environment) (name : String) : Option Bytes :=
  environment.entries.lookup name

def erase (environment : Environment) (name : String) : Environment where
  entries := environment.entries.filter fun entry => decide (entry.1 ≠ name)
  distinct := environment.distinct.sublist (List.filter_sublist.map _)

theorem not_mem_erase (environment : Environment) (name : String) :
    name ∉ (environment.erase name).entries.map Prod.fst := by
  simp [erase]

def set (environment : Environment) (name : String) (value : Bytes) :
    Environment where
  entries := (name, value) :: (environment.erase name).entries
  distinct :=
    List.nodup_cons.2 ⟨environment.not_mem_erase name, (environment.erase name).distinct⟩

/-- The environment with values for variables; later ones win. -/
def setAll (environment : Environment) (entries : List (String × Bytes)) :
    Environment :=
  entries.foldl (fun result entry => result.set entry.1 entry.2) environment

@[simp] theorem get?_erase_self (environment : Environment) (name : String) :
    (environment.erase name).get? name = none :=
  lookup_filter_self name environment.entries

theorem get?_erase_of_ne (environment : Environment) {name other : String}
    (differs : other ≠ name) :
    (environment.erase name).get? other = environment.get? other :=
  lookup_filter_of_ne differs environment.entries

@[simp] theorem get?_set_self (environment : Environment) (name : String)
    (value : Bytes) :
    (environment.set name value).get? name = some value := by
  simp [get?, set]

theorem get?_set_of_ne (environment : Environment) {name other : String}
    (value : Bytes) (differs : other ≠ name) :
    (environment.set name value).get? other = environment.get? other := by
  have apart : (other == name) = false := by simpa using differs
  rw [get?, set, List.lookup_cons, apart]
  exact environment.get?_erase_of_ne differs

/-- Values that are set win over the ones from before. -/
theorem get?_setAll (environment : Environment) {entries : List (String × Bytes)}
    (distinct : (entries.map Prod.fst).Nodup) (name : String) :
    (environment.setAll entries).get? name =
      (entries.lookup name).or (environment.get? name) := by
  induction entries generalizing environment with
  | nil => rfl
  | cons entry rest hypothesis =>
      obtain ⟨absent, restDistinct⟩ := List.nodup_cons.1 distinct
      have step := hypothesis (environment.set entry.1 entry.2) restDistinct
      by_cases same : name = entry.1
      · subst same
        rw [lookup_of_not_mem absent, get?_set_self] at step
        rw [List.lookup_cons, beq_self_eq_true]
        exact step
      · have apart : (name == entry.1) = false := by simpa using same
        rw [environment.get?_set_of_ne entry.2 same] at step
        rw [List.lookup_cons, apart]
        exact step

/-- The byte between a name and a value in a line. -/
def equalsSign : UInt8 := 61

/-- The lines in which a program receives the variables, ordered by name. -/
def lines (environment : Environment) : List Bytes :=
  (environment.entries.mergeSort fun left right => !(decide (right.1 < left.1))).map
    fun (name, value) => Text.encode name ++ equalsSign :: value

/-- The name and the value that a line gives.  The first byte belongs to the name
in any case. -/
def cutLine? : Bytes → Option (Bytes × Bytes)
  | [] => none
  | first :: rest =>
      match rest.dropWhile (· != equalsSign) with
      | [] => none
      | _ :: value => some (first :: rest.takeWhile (· != equalsSign), value)

/-- The value that a look-up by name finds: what follows the name and a `=` in the
first line that starts with them.  So a name may reach into the value of a shorter
one. -/
def valueIn? (lines : List Bytes) (name : String) : Option Bytes :=
  let mark := Text.encode name ++ [equalsSign]
  if name.isEmpty then none
  else (lines.find? fun line => mark.isPrefixOf line).map (·.drop mark.length)

/-- The variables that lines give.  Of several lines for one name the last counts,
and a line without a name gives none. -/
def ofLines (lines : List Bytes) : Environment :=
  empty.setAll ((lines.filterMap cutLine?).map fun (name, value) =>
    (Text.decodeLossy name, value))

/-- The variables that a program finds when it is started with an environment. -/
def received (environment : Environment) : Environment :=
  ofLines environment.lines

end Environment
end StatelessPgp
