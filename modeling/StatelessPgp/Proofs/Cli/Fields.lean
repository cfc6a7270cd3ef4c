import StatelessPgp.Proofs.Cli.Handover

/-!
# The arguments that are handed over

What a subcommand finds under the name of an argument are the values of the settings that are
meant for it, in the order in which they were given.
-/

namespace StatelessPgp

open Cli

namespace Cli.Occurrence

variable {occurrences : List Occurrence} {name : String}

theorem has_gather_nil :
    (gather [] occurrences).has name =
      occurrences.any fun occurrence => occurrence.argument == name := by
  rw [has_gather]
  rfl

theorem all_gather : (gather [] occurrences).all name = valuesOf occurrences name := by
  have none : Arguments.values [] name = [] := rfl
  rw [Arguments.all, values_gather, none, List.nil_append, List.filterMap_map]
  have each : readValue? String ∘ Text.encode = some := by
    funext text
    simp [readValue?, Value.read?]
  rw [each, List.filterMap_some]

theorem value?_gather {α : Type} [Value α] :
    ((gather [] occurrences).value? name : Option α) =
      (valuesOf occurrences name).head?.bind Value.read? := by
  have none : Arguments.values [] name = [] := rfl
  rw [Arguments.value?, values_gather, none, List.nil_append, List.head?_map]
  cases (valuesOf occurrences name).head? with
  | none => rfl
  | some text => simp [readValue?]

/-- The occurrences of an argument. -/
def named (occurrences : List Occurrence) (name : String) : List Occurrence :=
  occurrences.filter fun occurrence => occurrence.argument == name

theorem named_append (first second : List Occurrence) (name : String) :
    named (first ++ second) name = named first name ++ named second name :=
  List.filter_append ..

theorem any_eq_named (occurrences : List Occurrence) (name : String) :
    (occurrences.any fun occurrence => occurrence.argument == name) =
      (named occurrences name).any fun _ => true := by
  simp [named]

theorem named_eq_nil (apart : ∀ occurrence ∈ occurrences, occurrence.argument ≠ name) :
    named occurrences name = [] := by
  rw [named, List.filter_eq_nil_iff]
  intro occurrence member same
  exact apart occurrence member (eq_of_beq same)

end Cli.Occurrence

namespace Operation

variable {operation : Operation} {settings : List Setting} {directory : Path} {name : String}
  {kind : Setting}

/-- The names of the arguments that settings are not meant for one by one. -/
def otherArguments : List String :=
  ["user-id", "signature", "micalg-out", "signatures-out", "verifications-out",
    "session-key-out"]

/-- One setting of each kind, in the order of their declaration. -/
def kinds : List Setting :=
  [.noArmor, .signingOnly, .noNewMechanisms, .noRequireSelfSig, .addrSpecOnly, .userId "",
    .profile "", .signAs .binary, .inlineSignAs .binary, .encryptAs .binary, .encryptFor .any,
    .label .auto, .notBefore .now, .notAfter .now, .validateAt .now, .keyPassword [],
    .oldKeyPassword [], .newKeyPassword [], .password [], .sessionKey ⟨9, []⟩, .key [],
    .cert [], .signWith [], .verifyWith [], .signatures []]

theorem isEmpty_only (condition : Bool) (first second : Piece) :
    (!(only condition first).isEmpty) = !(only condition second).isEmpty := by
  cases condition <;> rfl

/-- What a setting is meant for, and where its words go, is a matter of its kind. -/
theorem exists_kind (setting : Setting) :
    ∃ kind, kinds[setting.ctorIdx]? = some kind ∧ kind.ctorIdx = setting.ctorIdx ∧
      kind.category? = setting.category? ∧
      ∀ operation : Operation, operation.accepts kind = operation.accepts setting ∧
        operation.argument kind = operation.argument setting ∧
        operation.place kind = operation.place setting := by
  cases setting with
  | userId | key | cert | notBefore | notAfter =>
      exact ⟨_, rfl, rfl, rfl, fun operation => by cases operation <;> exact ⟨rfl, rfl, rfl⟩⟩
  | _ => exact ⟨_, rfl, rfl, rfl, fun operation => ⟨isEmpty_only _ _ _, rfl, rfl⟩⟩

/-- Settings of one kind go to one place, and are given secrets of one category. -/
theorem of_isLike {setting : Setting} (like : kind.isLike setting = true) :
    setting.category? = kind.category? ∧
      ∀ operation : Operation, operation.place setting = operation.place kind := by
  obtain ⟨first, found, -, category, alike⟩ := exists_kind kind
  obtain ⟨second, foundToo, -, categoryToo, alikeToo⟩ := exists_kind setting
  rw [← eq_of_beq like, found] at foundToo
  obtain rfl := Option.some.inj foundToo
  exact ⟨categoryToo.symm.trans category, fun operation =>
    (alikeToo operation).2.2.symm.trans (alike operation).2.2⟩

/-- An argument is meant by the settings of one kind, none of which replaces another. -/
structure Means (operation : Operation) (name : String) (kind : Setting) : Prop where
  exactly : ∀ setting, operation.accepts setting = true →
    (operation.argument setting == name) = kind.isLike setting
  later : operation.place kind ≠ .first
  apart : name ∉ otherArguments

/-- Settings of different kinds are meant for different arguments. -/
theorem argument_injective : ∀ operation ∈ Operation.all, ∀ first ∈ kinds, ∀ second ∈ kinds,
    operation.accepts first = true → operation.accepts second = true →
      (operation.argument first = operation.argument second ↔
        first.ctorIdx = second.ctorIdx) := by
  decide +kernel

theorem argument_apart : ∀ operation ∈ Operation.all, ∀ kind ∈ kinds,
    operation.accepts kind = true → operation.place kind ≠ .first →
      operation.argument kind ∉ otherArguments := by
  decide +kernel

theorem mem_all (operation : Operation) : operation ∈ Operation.all := by
  cases operation <;> decide

/-- Each setting that no later one replaces is meant for an argument of its own. -/
theorem means_argument (accepted : operation.accepts kind = true)
    (later : operation.place kind ≠ .first) :
    operation.Means (operation.argument kind) kind := by
  obtain ⟨first, found, same, -, alike⟩ := exists_kind kind
  have listed := List.mem_of_getElem? found
  obtain ⟨acceptsFirst, argumentFirst, placeFirst⟩ := alike operation
  refine ⟨fun setting offered => ?exactly, later, ?apart⟩
  case exactly =>
      obtain ⟨second, foundToo, sameToo, -, alikeToo⟩ := exists_kind setting
      obtain ⟨acceptsSecond, argumentSecond, -⟩ := alikeToo operation
      have injective := argument_injective operation (mem_all operation) second
        (List.mem_of_getElem? foundToo) first listed (acceptsSecond.trans offered)
        (acceptsFirst.trans accepted)
      rw [argumentFirst, argumentSecond, same, sameToo] at injective
      rw [Setting.isLike, Bool.eq_iff_iff, beq_iff_eq, beq_iff_eq, injective]
      exact eq_comm
  case apart =>
      rw [← argumentFirst]
      exact argument_apart operation (mem_all operation) first listed
        (acceptsFirst.trans accepted) (placeFirst ▸ later)

theorem argument_of_mem_leading {occurrence : Occurrence}
    (member : occurrence ∈ operation.leading settings) :
    occurrence.argument ∈ otherArguments := by
  cases operation with
  | validateUserId | verify =>
      obtain ⟨text, -, rfl⟩ := List.mem_map.1 member
      simp [otherArguments]
  | _ => cases member

theorem argument_of_mem_reported {occurrence : Occurrence}
    (member : occurrence ∈ operation.reported directory settings) :
    occurrence.argument ∈ otherArguments := by
  obtain ⟨option, -, rfl⟩ := List.mem_map.1 member
  obtain ⟨option, channel⟩ := option
  cases channel <;> simp [otherArguments, Channel.argument]

section

variable (offered : ∀ setting ∈ settings, operation.accepts setting = true)
include offered

theorem named_occurrencesAt (means : operation.Means name kind) (position : Position) :
    Occurrence.named (operation.occurrencesAt position settings) name =
      ((Contribution.all [] settings).filter fun contribution =>
        kind.isLike contribution.setting &&
          decide (operation.place contribution.setting = position)).map
            (Contribution.occurrence operation) := by
  rw [Occurrence.named, occurrencesAt, List.filter_map, List.filter_filter]
  congr 1
  apply List.filter_congr
  intro contribution member
  have accepted := offered _ (Contribution.of_mem_all member).1
  rw [← means.exactly _ accepted]
  rfl

/-- Settings that go to one place are found in their order. -/
theorem Means.named_eq (means : operation.Means name kind) :
    Occurrence.named (operation.occurrences directory settings) name =
      ((Contribution.all [] settings).filter fun contribution =>
        kind.isLike contribution.setting).map (Contribution.occurrence operation) := by
  have leading : Occurrence.named (operation.leading settings) name = [] :=
    Occurrence.named_eq_nil fun occurrence member same =>
      means.apart (same ▸ argument_of_mem_leading member)
  have reported : Occurrence.named (operation.reported directory settings) name = [] :=
    Occurrence.named_eq_nil fun occurrence member same =>
      means.apart (same ▸ argument_of_mem_reported member)
  -- Settings of one kind go to one place, so one position has all of them and the other none.
  have there (other : Position) : ((Contribution.all [] settings).filter fun contribution =>
      kind.isLike contribution.setting &&
        decide (operation.place contribution.setting = other)) =
      if other = operation.place kind then
        (Contribution.all [] settings).filter fun contribution => kind.isLike contribution.setting
      else [] := by
    split
    · next same =>
        apply List.filter_congr
        intro contribution _
        cases chosen : kind.isLike contribution.setting with
        | false => rfl
        | true => simp [(of_isLike chosen).2 operation, same]
    · next differs =>
        rw [List.filter_eq_nil_iff]
        intro contribution _ both
        rw [Bool.and_eq_true, decide_eq_true_eq] at both
        exact differs (both.2.symm.trans ((of_isLike both.1).2 operation))
  rw [occurrences, Occurrence.named_append, Occurrence.named_append, Occurrence.named_append,
    named_occurrencesAt offered means, named_occurrencesAt offered means, leading, reported,
    there, there]
  cases goes : operation.place kind with
  | first => exact absurd goes means.later
  | inline | rest => simp

theorem Means.valuesOf_eq (means : operation.Means name kind) :
    Occurrence.valuesOf (operation.occurrences directory settings) name =
      ((Contribution.all [] settings).filter fun contribution =>
        kind.isLike contribution.setting).filterMap Contribution.value? := by
  have values (occurrences : List Occurrence) : Occurrence.valuesOf occurrences name =
      (Occurrence.named occurrences name).flatMap Occurrence.values := rfl
  rw [values, means.named_eq offered, List.flatMap_map, List.filterMap_eq_flatMap_toList]
  rfl

/-- Whether an argument is given is a matter of the settings that are meant for it. -/
theorem Means.has_eq (means : operation.Means name kind) :
    (Occurrence.gather [] (operation.occurrences directory settings)).has name =
      settings.any kind.isLike := by
  have listed : settings.any kind.isLike =
      ((Contribution.all [] settings).map Contribution.setting).any kind.isLike := by
    rw [Contribution.map_setting_all]
  rw [Occurrence.has_gather_nil, Occurrence.any_eq_named, means.named_eq offered, listed]
  simp [Function.comp_def]

theorem Means.valuesOf_eq_references (means : operation.Means name kind)
    (sealed : kind.category?.isSome = true) :
    Occurrence.valuesOf (operation.occurrences directory settings) name =
      Contribution.references kind settings := by
  rw [means.valuesOf_eq offered, Contribution.references]
  apply List.filterMap_congr
  intro contribution member
  have category := (of_isLike (List.mem_filter.1 member).2).1
  rw [← category] at sealed
  obtain ⟨before, setting⟩ := contribution
  cases setting <;> first | rfl | cases sealed

/-- The values of settings that are no secrets. -/
theorem Means.valuesOf_eq_map {α : Type} (means : operation.Means name kind)
    (extract : Setting → Option α) (write : α → String)
    (values : ∀ contribution : Contribution,
      (if kind.isLike contribution.setting then contribution.value? else none) =
        (extract contribution.setting).map write) :
    Occurrence.valuesOf (operation.occurrences directory settings) name =
      (settings.filterMap extract).map write := by
  have each : (fun contribution : Contribution =>
      if kind.isLike contribution.setting then contribution.value? else none) =
      fun contribution => (extract contribution.setting).map write := funext values
  have listed : settings = (Contribution.all [] settings).map Contribution.setting :=
    (Contribution.map_setting_all [] settings).symm
  rw [means.valuesOf_eq offered, List.filterMap_filter, each]
  conv_rhs => rw [listed]
  rw [List.filterMap_map, List.map_filterMap]
  rfl

end

/-- The arguments that a subcommand is given for an operation. -/
def handed (operation : Operation) (directory : Path) (settings : List Setting) : Arguments :=
  Occurrence.gather [] (operation.occurrences directory settings)

section

variable (offered : ∀ setting ∈ settings, operation.accepts setting = true)
include offered

theorem has_flag (flag : Setting)
    (listed : flag ∈ [Setting.noArmor, .signingOnly, .noNewMechanisms, .noRequireSelfSig,
      .addrSpecOnly])
    (accepted : operation.accepts flag = true) :
    (operation.handed directory settings).has (operation.argument flag) =
      settings.contains flag := by
  have later : operation.place flag ≠ .first := by
    simp only [List.mem_cons, List.not_mem_nil, or_false] at listed
    rcases listed with rfl | rfl | rfl | rfl | rfl <;> nofun
  have bare : flag.isLike = fun setting => flag == setting := by
    funext setting
    simp only [List.mem_cons, List.not_mem_nil, or_false] at listed
    rcases listed with rfl | rfl | rfl | rfl | rfl <;> cases setting <;> rfl
  rw [handed, (means_argument accepted later).has_eq offered, List.contains_eq_any_beq, bare]

section

variable (kind : Setting) (accepted : operation.accepts kind = true)
  (later : operation.place kind ≠ .first)
include accepted later

theorem all_references (sealed : kind.category?.isSome = true) :
    (operation.handed directory settings).all (operation.argument kind) =
      Contribution.references kind settings := by
  rw [handed, Occurrence.all_gather,
    (means_argument accepted later).valuesOf_eq_references offered sealed]

/-- A single secret is referred to by its first reference. -/
theorem value?_reference (sealed : kind.category?.isSome = true) :
    ((operation.handed directory settings).value? (operation.argument kind) : Option String) =
      (Contribution.references kind settings).head? := by
  rw [handed, Occurrence.value?_gather,
    (means_argument accepted later).valuesOf_eq_references offered sealed]
  cases (Contribution.references kind settings).head? <;> rfl

theorem all_texts (extract : Setting → Option String)
    (values : ∀ contribution : Contribution,
      (if kind.isLike contribution.setting then contribution.value? else none) =
        extract contribution.setting) :
    (operation.handed directory settings).all (operation.argument kind) =
      settings.filterMap extract := by
  rw [handed, Occurrence.all_gather,
    (means_argument accepted later).valuesOf_eq_map offered extract id (by simpa using values),
    List.map_id]

/-- A value is read back as what it was written for. -/
theorem value?_written {α β : Type} [Value β] (extract : Setting → Option α)
    (write : α → String) (read : α → β)
    (values : ∀ contribution : Contribution,
      (if kind.isLike contribution.setting then contribution.value? else none) =
        (extract contribution.setting).map write)
    (back : ∀ value, Value.read? (write value) = some (read value)) :
    ((operation.handed directory settings).value? (operation.argument kind) : Option β) =
      (settings.findSome? extract).map read := by
  rw [handed, Occurrence.value?_gather,
    (means_argument accepted later).valuesOf_eq_map offered extract write values,
    List.head?_map, List.head?_filterMap]
  cases settings.findSome? extract with
  | none => rfl
  | some value => exact back value

end

theorem argument_of_mem_occurrencesAt {position : Position} (early : position ≠ .first)
    {occurrence : Occurrence} (member : occurrence ∈ operation.occurrencesAt position settings) :
    occurrence.argument ∉ otherArguments := by
  obtain ⟨contribution, listed, goes, rfl⟩ := of_mem_occurrencesAt member
  exact (means_argument (offered _ listed) (goes ▸ early)).apart

/-- The other arguments are given by what comes first and by side channels. -/
theorem named_other (other : name ∈ otherArguments) :
    Occurrence.named (operation.occurrences directory settings) name =
      Occurrence.named (operation.leading settings) name ++
        Occurrence.named (operation.reported directory settings) name := by
  have none (position : Position) (early : position ≠ .first) :
      Occurrence.named (operation.occurrencesAt position settings) name = [] :=
    Occurrence.named_eq_nil fun occurrence member same =>
      argument_of_mem_occurrencesAt offered early member (same ▸ other)
  rw [occurrences, Occurrence.named_append, Occurrence.named_append, Occurrence.named_append,
    none .inline (by decide), none .rest (by decide), List.nil_append, List.append_nil]

theorem value?_other (other : name ∈ otherArguments) :
    ((operation.handed directory settings).value? name : Option String) =
      ((Occurrence.named (operation.leading settings) name ++
        Occurrence.named (operation.reported directory settings) name).flatMap
          Occurrence.values).head? := by
  have values : Occurrence.valuesOf (operation.occurrences directory settings) name =
      (Occurrence.named (operation.occurrences directory settings) name).flatMap
        Occurrence.values := rfl
  rw [handed, Occurrence.value?_gather, values, named_other offered other]
  generalize List.head? _ = first
  cases first <;> rfl

end

end Operation

end StatelessPgp
