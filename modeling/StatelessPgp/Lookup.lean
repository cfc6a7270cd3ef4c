/-!
# Lookup in lists of entries

Environments, trees of files and reserved channels are lists of keys with values.
What is found under one key does not depend on the entries with another key.
-/

namespace StatelessPgp

variable {Key Value : Type} [BEq Key] [LawfulBEq Key]

/-- Where no key occurs twice, each entry is found under its key. -/
theorem lookup_of_mem {entries : List (Key × Value)}
    (distinct : (entries.map Prod.fst).Nodup) {key : Key} {value : Value}
    (member : (key, value) ∈ entries) : entries.lookup key = some value := by
  induction entries with
  | nil => cases member
  | cons entry rest hypothesis =>
      obtain ⟨absent, restDistinct⟩ := List.nodup_cons.1 distinct
      rcases List.mem_cons.1 member with same | inside
      · simp [← same]
      · have apart : (key == entry.1) = false := by
          rw [beq_eq_false_iff_ne]
          rintro rfl
          exact absent (List.mem_map.2 ⟨_, inside, rfl⟩)
        rw [List.lookup_cons, apart]
        exact hypothesis restDistinct inside

theorem lookup_of_not_mem {entries : List (Key × Value)} {key : Key}
    (absent : key ∉ entries.map Prod.fst) : entries.lookup key = none := by
  rw [List.lookup_eq_none_iff]
  intro entry member
  rw [bne_iff_ne]
  rintro rfl
  exact absent (List.mem_map_of_mem member)

/-- Leaving out entries does not change what a key maps to that is kept. -/
theorem lookup_filter_of_pos (keep : Key → Bool) {key : Key} (kept : keep key = true)
    (entries : List (Key × Value)) :
    (entries.filter fun entry => keep entry.1).lookup key = entries.lookup key := by
  induction entries with
  | nil => rfl
  | cons entry rest hypothesis =>
      rw [List.filter_cons]
      split
      · rw [List.lookup_cons, List.lookup_cons, hypothesis]
      · next fails =>
          have apart : (key == entry.1) = false := by
            rw [beq_eq_false_iff_ne]
            rintro rfl
            exact fails kept
          rw [hypothesis, List.lookup_cons, apart]

/-- A key whose entries are left out maps to nothing. -/
theorem lookup_filter_of_neg (keep : Key → Bool) {key : Key} (left : keep key = false)
    (entries : List (Key × Value)) :
    (entries.filter fun entry => keep entry.1).lookup key = none := by
  rw [List.lookup_eq_none_iff]
  intro entry member
  rw [bne_iff_ne]
  rintro rfl
  have kept := (List.mem_filter.1 member).2
  rw [left] at kept
  cases kept

section Removal

variable [DecidableEq Key]

theorem lookup_filter_of_ne {key other : Key} (differs : other ≠ key)
    (entries : List (Key × Value)) :
    (entries.filter fun entry => decide (entry.1 ≠ key)).lookup other =
      entries.lookup other :=
  lookup_filter_of_pos (fun name => decide (name ≠ key)) (decide_eq_true differs) entries

theorem lookup_filter_self (key : Key) (entries : List (Key × Value)) :
    (entries.filter fun entry => decide (entry.1 ≠ key)).lookup key = none :=
  lookup_filter_of_neg (fun name => decide (name ≠ key)) (by simp) entries

end Removal

end StatelessPgp
