import StatelessPgp.Secret

/-!
# Names of secrets

The name of a variable that carries a secret ends with digits after an underscore,
and what stands before them is the label of a category.  Cutting the name at its
last underscore therefore gives back the category and the number, although some
labels end like others.  Secrets that are numbered in the order of their arrival
never share a name.
-/

namespace StatelessPgp

private theorem eq_nil_of_cons_eq_append_cons {α : Type} {mark : α}
    {rest middle other : List α} (notInRest : mark ∉ rest)
    (same : mark :: rest = middle ++ mark :: other) : middle = [] ∧ rest = other := by
  cases middle with
  | nil => exact ⟨rfl, (List.cons.inj same).2⟩
  | cons item middle =>
      have tails : rest = middle ++ mark :: other := (List.cons.inj same).2
      have inside : mark ∈ rest := by simp [tails]
      exact absurd inside notInRest

/-- A list is cut at the last occurrence of an item in one way only. -/
private theorem append_cons_inj {α : Type} {mark : α} {first second : List α}
    {firstRest secondRest : List α} (notInFirst : mark ∉ firstRest)
    (notInSecond : mark ∉ secondRest)
    (same : first ++ mark :: firstRest = second ++ mark :: secondRest) :
    first = second ∧ firstRest = secondRest := by
  rcases List.append_eq_append_iff.1 same with
    ⟨middle, secondEq, restEq⟩ | ⟨middle, firstEq, restEq⟩
  · obtain ⟨rfl, tails⟩ := eq_nil_of_cons_eq_append_cons notInFirst restEq
    exact ⟨by simpa using secondEq.symm, tails⟩
  · obtain ⟨rfl, tails⟩ := eq_nil_of_cons_eq_append_cons notInSecond restEq
    exact ⟨by simpa using firstEq, tails.symm⟩

theorem Category.label_inj {first second : Category}
    (same : first.label = second.label) : first = second := by
  cases first <;> cases second <;> first | rfl | exact absurd same (by decide)

namespace Binding

theorem toList_name (binding : Binding) :
    binding.name.toList =
      binding.category.label.toList ++ '_' :: Text.digits binding.index := by
  simp [name]

/-- The name of a variable determines the category and the number of its secret. -/
theorem name_inj {first second : Binding} (same : first.name = second.name) :
    first.category = second.category ∧ first.index = second.index := by
  have lists : first.category.label.toList ++ '_' :: Text.digits first.index =
      second.category.label.toList ++ '_' :: Text.digits second.index := by
    rw [← toList_name, ← toList_name, same]
  obtain ⟨labels, numbers⟩ := append_cons_inj
    (Text.underscore_not_mem_digits _) (Text.underscore_not_mem_digits _) lists
  exact ⟨Category.label_inj (String.toList_inj.1 labels), Text.digits_inj numbers⟩

end Binding

namespace Secrets

/-- Secrets as they are allocated, one after the other. -/
inductive Allocated : Secrets → Prop where
  | none : Allocated []
  | next {secrets : Secrets} (allocated : Allocated secrets) (category : Category)
      (value : Bytes) : Allocated (secrets ++ [secrets.next category value])

theorem count_append (first second : Secrets) (category : Category) :
    Secrets.count (first ++ second) category =
      first.count category + second.count category :=
  List.countP_append

/-- Numbers that are in use are below the number that comes next. -/
theorem Allocated.index_lt_count {secrets : Secrets} (allocated : Allocated secrets)
    {binding : Binding} (member : binding ∈ secrets) :
    binding.index < secrets.count binding.category := by
  induction allocated with
  | none => cases member
  | @next secrets _ category value hypothesis =>
      rw [count_append]
      rcases List.mem_append.1 member with earlier | latest
      · exact Nat.lt_add_right _ (hypothesis earlier)
      · obtain rfl := List.mem_singleton.1 latest
        have counted : Secrets.count [secrets.next category value] category = 1 := by
          simp [Secrets.count, Secrets.next]
        have number : (secrets.next category value).index = secrets.count category := rfl
        have kind : (secrets.next category value).category = category := rfl
        rw [number, kind, counted]
        exact Nat.lt_succ_self _

/-- A secret is numbered by how many of its category came before. -/
theorem Allocated.index_eq {secrets : Secrets} (allocated : Allocated secrets)
    {earlier later : Secrets} {binding : Binding}
    (split : secrets = earlier ++ binding :: later) :
    binding.index = earlier.count binding.category := by
  induction allocated generalizing later with
  | none => simp at split
  | @next secrets _ category value hypothesis =>
      rcases List.eq_nil_or_concat later with rfl | ⟨between, last, rfl⟩
      · obtain ⟨rfl, latest⟩ := List.append_inj' split rfl
        cases latest
        rfl
      · have front : secrets = earlier ++ binding :: between := by
          have regrouped : secrets ++ [secrets.next category value] =
              (earlier ++ binding :: between) ++ [last] := by simpa using split
          exact (List.append_inj' regrouped rfl).1
        exact hypothesis front

/-- Allocated secrets have different names. -/
theorem Allocated.names_nodup {secrets : Secrets} (allocated : Allocated secrets) :
    (secrets.map Binding.name).Nodup := by
  induction allocated with
  | none => exact .nil
  | @next secrets allocated category value hypothesis =>
      rw [List.map_append, List.map_singleton]
      refine List.nodup_append.2 ⟨hypothesis, by simp, ?_⟩
      rintro _ earlier _ latest rfl
      obtain ⟨binding, member, named⟩ := List.mem_map.1 earlier
      have sameName : binding.name = (secrets.next category value).name :=
        named.trans (List.mem_singleton.1 latest)
      obtain ⟨sameCategory, sameIndex⟩ := Binding.name_inj sameName
      have below := allocated.index_lt_count member
      rw [sameCategory, sameIndex] at below
      exact Nat.lt_irrefl _ below

end Secrets
end StatelessPgp
