import Mathlib.Data.List.TakeWhile
import StatelessPgp.Cli.Subcommand
import StatelessPgp.Proofs.Text.Encoding

/-!
# Spelled arguments are read

A grammar fixes how an argument is spelled: an option in one word with its value or in two
words, a positional argument in a word of its own.  Words that spell arguments one after the
other are read as just these arguments, unless one that may be given once is given again.
-/

namespace StatelessPgp
namespace Cli

open Text

namespace Arguments

variable (arguments : Arguments) (name other : String) (first second : List Bytes)

theorem lookup_entry (key : String) (held : List Bytes) :
    List.lookup other ((key, held) :: arguments) =
      if other = key then some held else arguments.lookup other := by
  by_cases found : other = key
  · simp [found]
  · simp [List.lookup_cons, found, beq_eq_false_iff_ne.2 found]

theorem lookup_map_add :
    List.lookup other (arguments.map fun entry =>
        if entry.1 = name then (name, entry.2 ++ first) else entry) =
      if other = name then (arguments.lookup name).map (· ++ first)
      else arguments.lookup other := by
  induction arguments with
  | nil => simp
  | cons entry rest hypothesis =>
      obtain ⟨key, held⟩ := entry
      rw [List.map_cons]
      by_cases same : key = name
      · subst same
        rw [if_pos rfl, lookup_entry, lookup_entry, lookup_entry, hypothesis, if_pos rfl]
        split <;> rfl
      · rw [if_neg same, lookup_entry, lookup_entry, lookup_entry, hypothesis,
          if_neg (Ne.symm same)]
        by_cases wanted : other = name
        · rw [if_pos wanted, if_pos wanted, if_neg (wanted ▸ Ne.symm same)]
        · rw [if_neg wanted, if_neg wanted]

theorem lookup_add :
    (arguments.add name first).lookup other =
      if other = name then some (arguments.values name ++ first)
      else arguments.lookup other := by
  rw [add, values, has]
  cases found : arguments.lookup name with
  | none =>
      by_cases wanted : other = name
      · subst wanted
        simp [List.lookup_append, found]
      · simp [List.lookup_append, wanted, List.lookup_cons, beq_eq_false_iff_ne.2 wanted]
  | some earlier =>
      rw [Option.isSome_some, if_pos rfl, lookup_map_add, found]
      rfl

theorem has_add :
    (arguments.add name first).has other = (decide (other = name) || arguments.has other) := by
  rw [has, lookup_add]
  by_cases wanted : other = name <;> simp [wanted, has]

theorem values_add :
    (arguments.add name first).values other =
      arguments.values other ++ if other = name then first else [] := by
  rw [values, lookup_add]
  by_cases wanted : other = name <;> simp [wanted, values]

theorem add_add :
    (arguments.add name first).add name second = arguments.add name (first ++ second) := by
  have given : (arguments.add name first).has name = true := by simp [has_add]
  rw [add, given, if_pos rfl, add, add]
  split
  · rw [List.map_map]
    apply List.map_congr_left
    intro entry _
    by_cases same : entry.1 = name <;> simp [same]
  · next absent =>
      have apart : ∀ entry ∈ arguments, entry.1 ≠ name := by
        rintro entry member rfl
        apply absent
        rw [has, List.lookup_isSome_iff]
        exact ⟨entry, member, by simp⟩
      rw [List.map_append]
      congr 1
      · conv_rhs => rw [← List.map_id arguments]
        exact List.map_congr_left fun entry member => if_neg (apart entry member)
      · simp

end Arguments

/-- An argument on a command line: the words for it and the values that they give. -/
structure Occurrence where
  words : List String
  argument : String
  values : List String

namespace Occurrence

/-- The values that occurrences give to an argument. -/
def valuesOf (occurrences : List Occurrence) (name : String) : List String :=
  (occurrences.filter fun occurrence => occurrence.argument == name).flatMap values

/-- The arguments that have occurred. -/
def gather (arguments : Arguments) (occurrences : List Occurrence) : Arguments :=
  occurrences.foldl
    (fun arguments occurrence =>
      arguments.add occurrence.argument (occurrence.values.map Text.encode)) arguments

theorem has_gather (arguments : Arguments) (occurrences : List Occurrence) (name : String) :
    (gather arguments occurrences).has name =
      (arguments.has name || occurrences.any fun occurrence => occurrence.argument == name) := by
  induction occurrences generalizing arguments with
  | nil => simp [gather]
  | cons occurrence rest hypothesis =>
      have step : gather arguments (occurrence :: rest) =
          gather (arguments.add occurrence.argument (occurrence.values.map Text.encode)) rest :=
        rfl
      rw [step, hypothesis, Arguments.has_add, List.any_cons]
      by_cases same : name = occurrence.argument
      · simp [same]
      · simp [same, beq_eq_false_iff_ne.2 (Ne.symm same)]

theorem values_gather (arguments : Arguments) (occurrences : List Occurrence)
    (name : String) :
    (gather arguments occurrences).values name =
      arguments.values name ++ (valuesOf occurrences name).map Text.encode := by
  induction occurrences generalizing arguments with
  | nil => simp [gather, valuesOf]
  | cons occurrence rest hypothesis =>
      have step : gather arguments (occurrence :: rest) =
          gather (arguments.add occurrence.argument (occurrence.values.map Text.encode)) rest :=
        rfl
      rw [step, hypothesis, Arguments.values_add]
      by_cases same : occurrence.argument = name
      · simp [valuesOf, same]
      · simp [valuesOf, same, Ne.symm same]

end Occurrence

namespace Grammar

variable {grammar : Grammar} {progress : Progress} {arguments : Arguments} {rule : OptionRule}
  {name text value : String} {trailing : Bool} {position next : Nat}

section Shapes

/-- The name of an option can be told from hyphens before it and a value after it. -/
def IsName (name : String) : Prop :=
  name ≠ "" ∧ '=' ∉ name.toList

instance (name : String) : Decidable (IsName name) :=
  inferInstanceAs (Decidable (_ ∧ _))

theorem IsName.ne_equals (named : IsName name) :
    ∀ byte ∈ Text.encode name, (byte != 61) = true := by
  intro byte member
  rw [bne_iff_ne]
  rintro rfl
  exact not_mem_encode (by decide) named.2 member

theorem shape_hyphens {first : UInt8} {rest : Bytes} :
    shape (45 :: 45 :: first :: rest) =
      .option (Text.decode? ((first :: rest).takeWhile (· != 61)))
        (match (first :: rest).dropWhile (· != 61) with
          | [] => none
          | _ :: value => some value) := rfl

theorem IsName.exists_cons (named : IsName name) :
    ∃ first rest, Text.encode name = first :: rest := by
  apply List.exists_cons_of_ne_nil
  intro empty
  apply named.1
  rw [← Option.some_inj, ← decode?_encode name, empty]
  rfl

theorem shape_option (named : IsName name) :
    shape (Text.encode ("--" ++ name)) = .option (some name) none := by
  obtain ⟨first, rest, written⟩ := named.exists_cons
  have word : Text.encode ("--" ++ name) = 45 :: 45 :: Text.encode name := by
    rw [encode_append]
    rfl
  rw [word, written, shape_hyphens, ← written, List.takeWhile_eq_self_iff.2 named.ne_equals,
    List.dropWhile_eq_nil_iff.2 named.ne_equals, decode?_encode]

theorem shape_attached (named : IsName name) :
    shape (Text.encode ("--" ++ name ++ "=" ++ value)) =
      .option (some name) (some (Text.encode value)) := by
  obtain ⟨first, rest, written⟩ := named.exists_cons
  have equals : Text.encode "=" = [61] := by decide
  have word : Text.encode ("--" ++ name ++ "=" ++ value) =
      45 :: 45 :: (Text.encode name ++ 61 :: Text.encode value) := by
    rw [encode_append, encode_append, encode_append, equals]
    simp only [List.append_assoc, List.singleton_append]
    rfl
  have before : (Text.encode name ++ 61 :: Text.encode value).takeWhile (· != 61) =
      Text.encode name := by
    rw [List.takeWhile_append_of_pos named.ne_equals]
    simp
  have after : (Text.encode name ++ 61 :: Text.encode value).dropWhile (· != 61) =
      61 :: Text.encode value := by
    rw [List.dropWhile_append_of_pos named.ne_equals]
    simp
  rw [written, List.cons_append] at word before after
  rw [word, shape_hyphens, before, after, ← written, decode?_encode]

/-- A word that does not begin with a hyphen is no option. -/
theorem shape_plain (plain : text.toList.head? ≠ some '-') :
    shape (Text.encode text) = .plain := by
  rw [encode]
  cases characters : text.toList with
  | nil => rfl
  | cons first rest =>
      rw [characters, List.head?_cons] at plain
      rw [List.flatMap_cons]
      cases bytes : String.utf8EncodeChar first with
      | nil => exact absurd (congrArg List.length bytes) (by simpa using first.utf8Size_pos.ne')
      | cons byte others =>
          have other : byte ≠ 45 := by
            rintro rfl
            have within : (45 : UInt8) ∈ String.utf8EncodeChar first := bytes ▸ List.mem_cons_self
            exact plain (congrArg some (eq_of_mem_encodeChar (by decide) within))
          rw [List.cons_append, shape]
          · intro same
            exact other (List.cons.inj same).1
          · intro more same
            exact other (List.cons.inj same).1
          · intro second more same
            exact other (List.cons.inj same).1

end Shapes

/-- The rules of a grammar do not get in the way of each other. -/
structure IsRegular (grammar : Grammar) : Prop where
  named : ∀ rule ∈ grammar.options, ∀ name ∈ rule.name :: rule.aliases, IsName name
  distinct : (grammar.options.map OptionRule.name).Nodup
  apart : ∀ positional ∈ grammar.positionals, ∀ rule ∈ grammar.options,
    rule.name ≠ positional.name
  independent : ∀ rule ∈ grammar.options, rule.excludes = []

/-- How an occurrence of an argument is spelled, after hyphens alone or not, and where the
given number of positional arguments is complete before and after it. -/
inductive Fits (grammar : Grammar) : Bool → Nat → Occurrence → Nat → Prop where
  | flag {position : Nat} {rule : OptionRule} {name : String}
      (known : grammar.option? name = some rule) (alone : rule.arity = .flag) :
      Fits grammar false position ⟨["--" ++ name], rule.name, []⟩ position
  | attached {position : Nat} {rule : OptionRule} {name value : String}
      (known : grammar.option? name = some rule) (takes : rule.arity ≠ .flag)
      (allowed : rule.allows (Text.encode value) = true) :
      Fits grammar false position ⟨["--" ++ name ++ "=" ++ value], rule.name, [value]⟩ position
  /-- An option that takes several values would take positional arguments after it. -/
  | separate {position : Nat} {rule : OptionRule} {value : String}
      (known : grammar.option? rule.name = some rule) (takes : rule.arity ≠ .flag)
      (allowed : rule.allows (Text.encode value) = true)
      (plain : value.toList.head? ≠ some '-')
      (bounded : rule.arity = .many → grammar.positionals = []) :
      Fits grammar false position ⟨["--" ++ rule.name, value], rule.name, [value]⟩ position
  | positional {trailing : Bool} {position : Nat} {rule : PositionalRule} {value : String}
      (known : grammar.positionals[position]? = some rule)
      (plain : value.toList.head? ≠ some '-') :
      Fits grammar trailing position ⟨[value], rule.name, [value]⟩
        (if rule.multiple then position else position + 1)

/-- Words spell occurrences of arguments one after the other. -/
inductive Spells (grammar : Grammar) :
    Bool → Nat → List String → List Occurrence → Bool → Nat → Prop where
  | nil {trailing : Bool} {position : Nat} :
      Spells grammar trailing position [] [] trailing position
  | cons {trailing later : Bool} {position middle next : Nat} {occurrence : Occurrence}
      {words : List String} {occurrences : List Occurrence}
      (fits : Fits grammar trailing position occurrence middle)
      (rest : Spells grammar trailing middle words occurrences later next) :
      Spells grammar trailing position (occurrence.words ++ words)
        (occurrence :: occurrences) later next
  | separator {later : Bool} {position next : Nat} {words : List String}
      {occurrences : List Occurrence}
      (rest : Spells grammar true position words occurrences later next) :
      Spells grammar false position ("--" :: words) occurrences later next

theorem Spells.append {middle later : Bool} {between : Nat} {words more : List String}
    {occurrences others : List Occurrence}
    (first : Spells grammar trailing position words occurrences middle between)
    (second : Spells grammar middle between more others later next) :
    Spells grammar trailing position (words ++ more) (occurrences ++ others) later next := by
  induction first with
  | nil => exact second
  | cons fits rest hypothesis =>
      rw [List.append_assoc]
      exact .cons fits (hypothesis second)
  | separator rest hypothesis => exact .separator (hypothesis second)

/-- Occurrences that leave the positional argument incomplete are spelled one after the
other. -/
theorem Spells.of_fits {occurrences : List Occurrence}
    (fit : ∀ occurrence ∈ occurrences, Fits grammar trailing position occurrence position) :
    Spells grammar trailing position (occurrences.flatMap Occurrence.words) occurrences
      trailing position := by
  induction occurrences with
  | nil => exact .nil
  | cons occurrence rest hypothesis =>
      exact .cons (fit occurrence (.head _)) (hypothesis fun other member =>
        fit other (.tail _ member))

/-- Arguments have been read, where those whose values are held back count as read. -/
structure HasRead (grammar : Grammar) (progress : Progress) (arguments : Arguments)
    (trailing : Bool) (position : Nat) : Prop where
  settles : grammar.settle progress =
    .ok { progress with found := arguments, pending := none }
  trailing_eq : progress.trailing = trailing
  position_eq : progress.position = position
  /-- A positional argument is never taken for the value of an option. -/
  waits : progress.expectsValue = true → grammar.positionals = []

section Accepting

variable (regular : grammar.IsRegular)
include regular

theorem IsRegular.find_name (member : rule ∈ grammar.options) :
    grammar.options.find? (fun other => other.name == rule.name) = some rule := by
  have distinct := regular.distinct
  generalize grammar.options = options at member distinct
  induction options with
  | nil => cases member
  | cons head rest hypothesis =>
      obtain ⟨apart, distinct⟩ := List.nodup_cons.1 distinct
      rcases List.mem_cons.1 member with rfl | member
      · simp
      · have other : head.name ≠ rule.name := fun same =>
          apart (same ▸ List.mem_map_of_mem member)
        rw [List.find?_cons_of_neg (by simpa using other)]
        exact hypothesis member distinct

theorem IsRegular.accept_option (member : rule ∈ grammar.options) (values : List Bytes)
    (counted : rule.arity = .flag ∨ values ≠ [])
    (fresh : rule.repeatable = false → arguments.has rule.name = false)
    (allowed : values.all rule.allows = true) :
    grammar.accept arguments rule.name values = .ok (arguments.add rule.name values) := by
  have filled : ¬ (rule.arity ≠ .flag ∧ values.isEmpty = true) := by
    rintro ⟨takes, empty⟩
    exact counted.elim takes fun given => given (List.isEmpty_iff.1 empty)
  have first : (!rule.repeatable && arguments.has rule.name) = false := by
    cases repeatable : rule.repeatable with
    | true => rfl
    | false => rw [fresh repeatable]; rfl
  rw [accept, regular.find_name member]
  dsimp only
  rw [if_neg filled, first, allowed]
  rfl

theorem IsRegular.accept_positional {positional : PositionalRule}
    (member : positional ∈ grammar.positionals) (arguments : Arguments) (values : List Bytes) :
    grammar.accept arguments positional.name values =
      if values.all fun value => (Text.decode? value).isSome then
        .ok (arguments.add positional.name values)
      else .error .unsupported := by
  have unlisted : grammar.options.find? (fun rule => rule.name == positional.name) = none := by
    rw [List.find?_eq_none]
    intro rule listed
    simpa using regular.apart positional member rule listed
  rw [accept, unlisted]

end Accepting

/-- The rule of an option is found by one of its names. -/
theorem of_option? {grammar : Grammar} {name : String} {rule : OptionRule}
    (known : grammar.option? name = some rule) :
    rule ∈ grammar.options ∧ name ∈ rule.name :: rule.aliases := by
  refine ⟨List.mem_of_find?_eq_some known, ?_⟩
  have found := List.find?_some known
  simp only [Bool.or_eq_true, beq_iff_eq, List.contains_eq_mem, decide_eq_true_eq] at found
  rcases found with rfl | other
  · exact .head _
  · exact .tail _ other

section Reading

variable (regular : grammar.IsRegular)
include regular

theorem HasRead.advance_flag (read : HasRead grammar progress arguments false position)
    (known : grammar.option? name = some rule) (alone : rule.arity = .flag)
    (fresh : rule.repeatable = false → arguments.has rule.name = false) :
    ∃ later, grammar.advance .unsupported progress (Text.encode ("--" ++ name)) = .ok later ∧
      HasRead grammar later (arguments.add rule.name []) false position := by
  obtain ⟨member, named⟩ := of_option? known
  have accepted := regular.accept_option member [] (.inl alone) fresh rfl
  refine ⟨{ progress with
      found := arguments.add rule.name []
      pending := none
      expectsValue := false }, ?_, ⟨rfl, read.trailing_eq, read.position_eq, nofun⟩⟩
  simp [advance, read.trailing_eq, shape_option (regular.named rule member name named),
    readOption, known, alone, read.settles, accepted, bind, Except.bind, pure, Except.pure]

theorem HasRead.advance_attached (read : HasRead grammar progress arguments false position)
    (known : grammar.option? name = some rule) (takes : rule.arity ≠ .flag)
    (allowed : rule.allows (Text.encode value) = true)
    (fresh : rule.repeatable = false → arguments.has rule.name = false) :
    ∃ later, grammar.advance .unsupported progress (Text.encode ("--" ++ name ++ "=" ++ value)) =
        .ok later ∧
      HasRead grammar later (arguments.add rule.name [Text.encode value]) false position := by
  obtain ⟨member, named⟩ := of_option? known
  have accepted := regular.accept_option member [Text.encode value] (.inr (by simp)) fresh
    (by simp [allowed])
  refine ⟨{ progress with
      found := arguments.add rule.name [Text.encode value]
      pending := none
      expectsValue := false }, ?_, ⟨rfl, read.trailing_eq, read.position_eq, nofun⟩⟩
  simp [advance, read.trailing_eq, shape_attached (regular.named rule member name named),
    readOption, known, takes, read.settles, accepted, bind, Except.bind, pure, Except.pure]

/-- The value in the next word is held back. -/
theorem HasRead.advance_separate (read : HasRead grammar progress arguments false position)
    (known : grammar.option? rule.name = some rule) (takes : rule.arity ≠ .flag)
    (allowed : rule.allows (Text.encode value) = true) (plain : value.toList.head? ≠ some '-')
    (bounded : rule.arity = .many → grammar.positionals = [])
    (fresh : rule.repeatable = false → arguments.has rule.name = false) :
    ∃ middle later,
      grammar.advance .unsupported progress (Text.encode ("--" ++ rule.name)) = .ok middle ∧
      grammar.advance .unsupported middle (Text.encode value) = .ok later ∧
      HasRead grammar later (arguments.add rule.name [Text.encode value]) false position := by
  obtain ⟨member, named⟩ := of_option? known
  have accepted := regular.accept_option member [Text.encode value] (.inr (by simp)) fresh
    (by simp [allowed])
  refine ⟨{ progress with
        found := arguments
        pending := some (rule.name, [])
        expectsValue := true },
    { progress with
        found := arguments
        pending := some (rule.name, [Text.encode value])
        expectsValue := rule.arity = .many }, ?_, ?_,
    ⟨?_, read.trailing_eq, read.position_eq, fun many => bounded (of_decide_eq_true many)⟩⟩
  · simp [advance, read.trailing_eq, shape_option (regular.named rule member _ named),
      readOption, known, takes, read.settles, bind, Except.bind, pure, Except.pure]
  · simp [advance, read.trailing_eq, shape_plain plain, readValue, known]
  · simp [settle, accepted, Except.map]

/-- A positional argument begins. -/
theorem HasRead.place {positional : PositionalRule} {started : Progress}
    (settles : grammar.settle started = .ok started)
    (read : HasRead grammar started arguments trailing position)
    (member : positional ∈ grammar.positionals) :
    HasRead grammar (readPositional.place (Text.encode value) positional started)
      (arguments.add positional.name [Text.encode value]) trailing
      (if positional.multiple then position else position + 1) := by
  have found : started.found = arguments := by
    rw [read.settles] at settles
    exact (congrArg Progress.found (Except.ok.inj settles)).symm
  have accepted := regular.accept_positional member arguments [Text.encode value]
  refine ⟨?_, read.trailing_eq, ?_, nofun⟩
  · simp [readPositional.place, settle, found, accepted, Except.map]
  · rw [← read.position_eq]
    rfl

/-- A word that does not look like an option is a positional argument. -/
theorem HasRead.advance_positional {positional : PositionalRule}
    (read : HasRead grammar progress arguments trailing position)
    (known : grammar.positionals[position]? = some positional)
    (plain : value.toList.head? ≠ some '-') :
    ∃ later, grammar.advance .unsupported progress (Text.encode value) = .ok later ∧
      HasRead grammar later (arguments.add positional.name [Text.encode value]) trailing
        (if positional.multiple then position else position + 1) := by
  have member : positional ∈ grammar.positionals := List.mem_of_getElem? known
  have listed : grammar.positionals ≠ [] := List.ne_nil_of_mem member
  have settled : progress.expectsValue = false :=
    Bool.eq_false_iff.2 fun expects => listed (read.waits expects)
  have step : grammar.advance .unsupported progress (Text.encode value) =
      grammar.readPositional .unsupported progress (Text.encode value) := by
    rw [advance, shape_plain plain, settled]
    simp
  have settles := read.settles
  rw [step, readPositional, read.position_eq, known]
  dsimp only
  cases pending : progress.pending with
  | none =>
      dsimp only
      have idle : grammar.settle progress = .ok progress := by rw [settle, pending]
      exact ⟨_, rfl, read.place regular idle member⟩
  | some held =>
      obtain ⟨name, values⟩ := held
      dsimp only
      split
      · next same =>
          -- The word joins the values of the argument before it, which stay held back.
          obtain ⟨multiple, rfl⟩ := same
          rw [settle, pending] at settles
          dsimp only at settles
          rw [regular.accept_positional member progress.found values] at settles
          split at settles
          · next legible =>
              have given : progress.found.add positional.name values = arguments :=
                congrArg Progress.found (Except.ok.inj settles)
              refine ⟨_, rfl, ⟨?_, read.trailing_eq, ?_, read.waits⟩⟩
              · simp only [settle]
                rw [regular.accept_positional member, List.all_append, legible]
                simp [← given, Arguments.add_add, Except.map]
              · rw [if_pos multiple]
          · cases settles
      · have started : HasRead grammar
            { progress with
                found := arguments
                pending := none } arguments trailing position :=
          ⟨rfl, read.trailing_eq, read.position_eq, read.waits⟩
        rw [settles]
        exact ⟨_, rfl, started.place regular rfl member⟩

/-- Occurrences may follow arguments that have been given: nothing that may be given once is
given again. -/
def Admits (grammar : Grammar) (arguments : Arguments) (occurrences : List Occurrence) : Prop :=
  ∀ rule ∈ grammar.options, rule.repeatable = false →
    (occurrences.countP fun occurrence => occurrence.argument == rule.name) +
      (arguments.has rule.name).toNat ≤ 1

omit regular in
theorem Admits.of_append {first second : List Occurrence}
    (admits : grammar.Admits arguments (first ++ second)) : grammar.Admits arguments first := by
  intro rule member unrepeatable
  have once := admits rule member unrepeatable
  rw [List.countP_append] at once
  omega

omit regular in
theorem Admits.fresh {occurrence : Occurrence} {rest : List Occurrence}
    (admits : grammar.Admits arguments (occurrence :: rest)) (member : rule ∈ grammar.options)
    (same : occurrence.argument = rule.name) (unrepeatable : rule.repeatable = false) :
    arguments.has rule.name = false := by
  have once := admits rule member unrepeatable
  rw [List.countP_cons_of_pos (by simpa using same)] at once
  cases given : arguments.has rule.name with
  | false => rfl
  | true =>
      rw [given, Bool.toNat_true] at once
      omega

omit regular in
theorem Admits.tail {occurrence : Occurrence} {rest : List Occurrence}
    (admits : grammar.Admits arguments (occurrence :: rest)) (values : List Bytes) :
    grammar.Admits (arguments.add occurrence.argument values) rest := by
  intro rule member unrepeatable
  have once := admits rule member unrepeatable
  rw [Arguments.has_add]
  by_cases same : rule.name = occurrence.argument
  · rw [List.countP_cons_of_pos (by simpa using same.symm)] at once
    have none : (rest.countP fun other => other.argument == rule.name) = 0 := by omega
    rw [none, decide_eq_true same, Bool.true_or, Bool.toNat_true]
  · rw [List.countP_cons_of_neg (by simpa using Ne.symm same)] at once
    rw [decide_eq_false same, Bool.false_or]
    exact once

/-- The words of an occurrence are read as that occurrence. -/
theorem HasRead.of_fits {occurrence : Occurrence} {rest : List Occurrence}
    (read : HasRead grammar progress arguments trailing position)
    (fits : Fits grammar trailing position occurrence next)
    (admits : grammar.Admits arguments (occurrence :: rest)) :
    ∃ later, grammar.advanceAll progress (occurrence.words.map Text.encode) = .ok later ∧
      HasRead grammar later
        (arguments.add occurrence.argument (occurrence.values.map Text.encode)) trailing next := by
  cases fits with
  | flag known alone =>
      obtain ⟨later, step, stands⟩ := read.advance_flag regular known alone
        (admits.fresh (of_option? known).1 rfl)
      exact ⟨later, by simp [advanceAll, step, bind, Except.bind], stands⟩
  | attached known takes allowed =>
      obtain ⟨later, step, stands⟩ := read.advance_attached regular known takes allowed
        (admits.fresh (of_option? known).1 rfl)
      exact ⟨later, by simp [advanceAll, step, bind, Except.bind], stands⟩
  | separate known takes allowed plain bounded =>
      obtain ⟨middle, later, first, second, stands⟩ := read.advance_separate regular known takes
        allowed plain bounded (admits.fresh (of_option? known).1 rfl)
      exact ⟨later, by simp [advanceAll, first, second, bind, Except.bind], stands⟩
  | positional known plain =>
      obtain ⟨later, step, stands⟩ := read.advance_positional regular known plain
      exact ⟨later, by simp [advanceAll, step, bind, Except.bind], stands⟩

omit regular in
theorem advanceAll_append (first second : List Bytes) :
    grammar.advanceAll progress (first ++ second) =
      (grammar.advanceAll progress first).bind fun later => grammar.advanceAll later second := by
  induction first generalizing progress with
  | nil => rfl
  | cons word rest hypothesis =>
      rw [List.cons_append, advanceAll, advanceAll]
      cases grammar.advance .unsupported progress word with
      | error refusal => rfl
      | ok later => exact hypothesis

/-- Words that spell occurrences are read as these occurrences. -/
theorem HasRead.of_spells {words : List String} {occurrences : List Occurrence} {later : Bool}
    (read : HasRead grammar progress arguments trailing position)
    (spells : Spells grammar trailing position words occurrences later next)
    (admits : grammar.Admits arguments occurrences) :
    ∃ final, grammar.advanceAll progress (words.map Text.encode) = .ok final ∧
      HasRead grammar final (Occurrence.gather arguments occurrences) later next := by
  induction spells generalizing progress arguments with
  | nil => exact ⟨progress, rfl, read⟩
  | cons fits rest hypothesis =>
      obtain ⟨middle, step, stands⟩ := read.of_fits regular fits admits
      obtain ⟨final, run, done⟩ := hypothesis stands (admits.tail _)
      refine ⟨final, ?_, done⟩
      rw [List.map_append, advanceAll_append, step]
      exact run
  | separator rest hypothesis =>
      -- Hyphens alone settle nothing: a value held back is still held back after them.
      obtain rfl := read.position_eq
      have stands : HasRead grammar { progress with trailing := true } arguments true
          progress.position := by
        refine ⟨?_, rfl, rfl, read.waits⟩
        have settles := read.settles
        rw [settle] at settles ⊢
        cases pending : progress.pending with
        | none =>
            rw [pending] at settles
            simpa [pending] using congrArg Progress.found (Except.ok.inj settles)
        | some held =>
            rw [pending] at settles
            cases accepted : grammar.accept progress.found held.1 held.2 with
            | error refusal => simp [accepted, Except.map] at settles
            | ok found => simpa [accepted, Except.map] using settles
      obtain ⟨final, run, done⟩ := hypothesis stands admits
      refine ⟨final, ?_, done⟩
      have hyphens : Text.encode "--" = [45, 45] := by decide
      have step : grammar.advance .unsupported progress [45, 45] =
          .ok { progress with trailing := true } := by
        simp [advance, read.trailing_eq, shape]
      rw [List.map_cons, hyphens, advanceAll, step]
      exact run

theorem HasRead.conclude_eq (read : HasRead grammar progress arguments trailing position) :
    grammar.conclude progress =
      if grammar.lacksRequired arguments then .error .missing else .ok arguments := by
  have compatible : grammar.hasConflict arguments = false := by
    rw [hasConflict, List.any_eq_false]
    intro rule member
    simp [regular.independent rule member]
  rw [conclude, read.settles]
  cases missing : grammar.lacksRequired arguments <;>
    simp [compatible, missing, bind, Except.bind, pure, Except.pure, throw, throwThe,
      MonadExceptOf.throw]

omit regular in
/-- Nothing has been read at first. -/
theorem hasRead_nil (grammar : Grammar) : HasRead grammar {} [] false 0 :=
  ⟨rfl, rfl, rfl, nofun⟩

/-- A command line that spells arguments is read as these arguments, unless one is missing. -/
theorem parse_of_spells {words : List String} {occurrences : List Occurrence} {later : Bool}
    (spells : Spells grammar false 0 words occurrences later next)
    (admits : grammar.Admits [] occurrences) :
    grammar.parse (words.map Text.encode) =
      if grammar.lacksRequired (Occurrence.gather [] occurrences) then .error .missing
      else .ok (Occurrence.gather [] occurrences) := by
  obtain ⟨final, run, done⟩ := (hasRead_nil grammar).of_spells regular spells admits
  rw [parse, run]
  exact done.conclude_eq regular

omit regular in
theorem HasRead.advance_unknown (read : HasRead grammar progress arguments false position)
    (unknown : grammar.option? name = none) (named : IsName name)
    (ordinary : name ∉ ["help", "version"]) :
    grammar.advance .unsupported progress (Text.encode ("--" ++ name)) = .error .unsupported := by
  obtain ⟨helpless, versionless⟩ : name ≠ "help" ∧ name ≠ "version" := by simpa using ordinary
  simp [advance, read.trailing_eq, shape_option named, readOption, unknown, helpless,
    versionless]

/-- An unknown option is not allowed, whatever follows it. -/
theorem parse_of_unknown {words : List String} {occurrences : List Occurrence}
    (spells : Spells grammar false 0 words occurrences false position)
    (admits : grammar.Admits [] occurrences) (unknown : grammar.option? name = none)
    (named : IsName name) (ordinary : name ∉ ["help", "version"]) (more : List Bytes) :
    grammar.parse (words.map Text.encode ++ Text.encode ("--" ++ name) :: more) =
      .error .unsupported := by
  obtain ⟨final, run, done⟩ := (hasRead_nil grammar).of_spells regular spells admits
  rw [parse, advanceAll_append, run]
  dsimp only [Except.bind]
  rw [advanceAll, done.advance_unknown unknown named ordinary]
  rfl

end Reading

end Grammar

end Cli
end StatelessPgp
