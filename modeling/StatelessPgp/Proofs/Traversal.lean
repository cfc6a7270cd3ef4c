import Mathlib.Data.List.Forall2

/-!
# Traversals that can fail

Steps succeed one after the other, or the first that fails decides.  So a list is worked off item
by item.
-/

namespace StatelessPgp

theorem exists_of_bind_eq_ok {ε α β : Type} {first : Except ε α}
    {second : α → Except ε β} {value : β} (ran : first >>= second = .ok value) :
    ∃ middle, first = .ok middle ∧ second middle = .ok value := by
  cases first with
  | error failure => cases ran
  | ok middle => exact ⟨middle, rfl, ran⟩

theorem exists_of_forall₂ {α β : Type} {relation : α → β → Prop} {first : List α}
    {second : List β} (related : List.Forall₂ relation first second) {item : α}
    (member : item ∈ first) : ∃ other ∈ second, relation item other := by
  induction related with
  | nil => cases member
  | cons head _ hypothesis =>
      rcases List.mem_cons.1 member with rfl | member
      · exact ⟨_, .head _, head⟩
      · obtain ⟨other, inside, same⟩ := hypothesis member
        exact ⟨other, .tail _ inside, same⟩

theorem exists_append_of_forall₂ {α β : Type} {relation : α → β → Prop} {before after : List α}
    {item : α} {second : List β}
    (related : List.Forall₂ relation (before ++ item :: after) second) :
    ∃ earlier other later, second = earlier ++ other :: later ∧
      List.Forall₂ relation before earlier ∧ relation item other := by
  induction before generalizing second with
  | nil =>
      obtain ⟨other, later, same, -, rfl⟩ := List.forall₂_cons_left_iff.1 related
      exact ⟨[], other, later, rfl, .nil, same⟩
  | cons first before hypothesis =>
      obtain ⟨head, rest, here, there, rfl⟩ := List.forall₂_cons_left_iff.1 related
      obtain ⟨earlier, other, later, rfl, relatedBefore, same⟩ := hypothesis there
      exact ⟨head :: earlier, other, later, rfl, .cons here relatedBefore, same⟩

/-- A computation fails at an item of a list, and at no earlier one. -/
inductive FirstFails {α β ε : Type} (compute : α → Except ε β) (items : List α) (error : ε) :
    Prop where
  | intro (earlier : List α) (item : α) (later : List α)
      (split : items = earlier ++ item :: later)
      (passes : ∀ other ∈ earlier, ∃ value, compute other = .ok value)
      (fails : compute item = .error error)

namespace FirstFails

variable {α β ε : Type} {compute : α → Except ε β} {items : List α} {item : α} {error : ε}

theorem ne_nil (failed : FirstFails compute items error) : items ≠ [] := by
  obtain ⟨earlier, item, later, rfl, -, -⟩ := failed
  simp

theorem head (fails : compute item = .error error) (rest : List α) :
    FirstFails compute (item :: rest) error :=
  .intro [] item rest rfl nofun fails

theorem cons {value : β} (passes : compute item = .ok value)
    (failed : FirstFails compute items error) : FirstFails compute (item :: items) error := by
  obtain ⟨earlier, other, later, rfl, earlierPass, fails⟩ := failed
  refine .intro (item :: earlier) other later rfl ?_ fails
  intro another member
  rcases List.mem_cons.1 member with rfl | member
  · exact ⟨value, passes⟩
  · exact earlierPass another member

theorem cons_iff : FirstFails compute (item :: items) error ↔
    compute item = .error error ∨
      (∃ value, compute item = .ok value) ∧ FirstFails compute items error := by
  constructor
  · rintro ⟨earlier, other, later, split, passes, fails⟩
    cases earlier with
    | nil =>
        obtain ⟨rfl, -⟩ := List.cons.inj split
        exact .inl fails
    | cons first earlier =>
        obtain ⟨rfl, rfl⟩ := List.cons.inj split
        refine .inr ⟨passes item (.head _), .intro earlier other later rfl ?_ fails⟩
        exact fun another member => passes another (.tail _ member)
  · rintro (fails | ⟨⟨value, passes⟩, failed⟩)
    · exact head fails items
    · exact cons passes failed

/-- A list is worked off up to the first item that fails. -/
theorem mapM_eq_error_iff : items.mapM compute = .error error ↔
    FirstFails compute items error := by
  induction items with
  | nil =>
      refine ⟨nofun, fun failed => absurd rfl failed.ne_nil⟩
  | cons item rest hypothesis =>
      rw [List.mapM_cons, cons_iff, ← hypothesis]
      cases compute item with
      | error other => simp [bind, Except.bind]
      | ok value => cases rest.mapM compute <;> simp [bind, Except.bind, pure, Except.pure]

theorem unique {other : ε} (left : FirstFails compute items error)
    (right : FirstFails compute items other) : error = other :=
  Except.error.inj ((mapM_eq_error_iff.2 left).symm.trans (mapM_eq_error_iff.2 right))

end FirstFails

section

variable {α β ε : Type} {items : List α}

theorem mapM_eq_ok_iff {compute : α → Except ε β} {values : List β} :
    items.mapM compute = .ok values ↔
      List.Forall₂ (fun item value => compute item = .ok value) items values := by
  induction items generalizing values with
  | nil => cases values <;> simp [pure, Except.pure]
  | cons item rest hypothesis =>
      rw [List.mapM_cons]
      cases first : compute item with
      | error error => cases values <;> simp [first, bind, Except.bind]
      | ok value =>
          cases values with
          | nil =>
              cases rest.mapM compute <;> simp [bind, Except.bind, pure, Except.pure]
          | cons head tail =>
              rw [List.forall₂_cons, ← hypothesis, first]
              cases rest.mapM compute <;> simp [bind, Except.bind, pure, Except.pure]

theorem forM_eq_ok_iff {check : α → Except ε Unit} :
    items.forM check = .ok () ↔ ∀ item ∈ items, check item = .ok () := by
  induction items with
  | nil => simp [pure, Except.pure]
  | cons item rest hypothesis =>
      rw [List.forM, List.forall_mem_cons, ← hypothesis]
      cases check item <;> simp [bind, Except.bind]

theorem forM_eq_error_iff {check : α → Except ε Unit} {error : ε} :
    items.forM check = .error error ↔ FirstFails check items error := by
  induction items with
  | nil => exact ⟨nofun, fun failed => absurd rfl failed.ne_nil⟩
  | cons item rest hypothesis =>
      rw [List.forM, FirstFails.cons_iff, ← hypothesis]
      cases check item <;> simp [bind, Except.bind]

end

end StatelessPgp
