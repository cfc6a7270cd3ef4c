import StatelessPgp.Proofs.Cli.Spelling
import StatelessPgp.Proofs.Operation.Contributions
import StatelessPgp.Proofs.Time.Bounds

/-!
# Counterparts on the command line

Each operation has a subcommand of its name, and each setting is meant for one of its
arguments.  The words of a setting spell that argument with the value of the setting, except
for one flag that the subcommand knows by another name.
-/

namespace StatelessPgp

open Cli

namespace Operation

/-- The subcommand for an operation. -/
def front : Operation → Subcommand
  | .generateKey => .generateKey
  | .extractCert => .extractCert
  | .revokeKey => .revokeKey
  | .changeKeyPassword => .changeKeyPassword
  | .updateKey => .updateKey
  | .mergeCerts => .mergeCerts
  | .certifyUserId => .certifyUserId
  | .validateUserId => .validateUserId
  | .sign => .sign
  | .inlineSign => .inlineSign
  | .inlineDetach => .inlineDetach
  | .verify => .verify
  | .inlineVerify => .inlineVerify
  | .encrypt => .encrypt
  | .decrypt => .decrypt
  | .armor => .armor
  | .dearmor => .dearmor

/-- The argument of the subcommand that a setting is meant for. -/
def argument (operation : Operation) : Setting → String
  | .noArmor => "no-armor"
  | .signingOnly => "signing-only"
  | .noNewMechanisms => "no-added-capabilities"
  | .noRequireSelfSig => "no-require-self-sig"
  | .addrSpecOnly => "addr-spec-only"
  | .userId _ =>
      match operation with
      | .generateKey => "user-ids"
      | .certifyUserId => "userid"
      | _ => "user-id"
  | .profile _ => "profile"
  | .signAs _ | .inlineSignAs _ | .encryptAs _ => "as"
  | .encryptFor _ => "for"
  | .label _ => "label"
  | .notBefore _ => if operation = .decrypt then "verify-not-before" else "not-before"
  | .notAfter _ => if operation = .decrypt then "verify-not-after" else "not-after"
  | .validateAt _ => "validate-at"
  | .keyPassword _ => "with-key-password"
  | .oldKeyPassword _ => "old-key-password"
  | .newKeyPassword _ => "new-key-password"
  | .password _ => "with-password"
  | .sessionKey _ => "with-session-key"
  | .key _ => "keys"
  | .cert _ =>
      match operation with
      | .updateKey => "merge-certs"
      | .validateUserId => "authorities"
      | _ => "certs"
  | .signWith _ => "sign-with"
  | .verifyWith _ => "verify-with"
  | .signatures _ => "signature"

end Operation

namespace Contribution

/-- The value that a setting gives to its argument.  A secret is referred to. -/
def value? (contribution : Contribution) : Option String :=
  match contribution.setting with
  | .userId text => some text
  | .profile name => some name
  | .signAs mode => some (Keyword.word mode)
  | .inlineSignAs mode => some (Keyword.word mode)
  | .encryptAs mode => some (Keyword.word mode)
  | .encryptFor purpose => some (Keyword.word purpose)
  | .label label => some (Keyword.word label)
  | .notBefore bound | .notAfter bound | .validateAt bound => some bound.render
  | _ => contribution.binding?.map Binding.reference

/-- A setting as an occurrence of its argument. -/
def occurrence (operation : Operation) (contribution : Contribution) : Occurrence :=
  ⟨contribution.words operation, operation.argument contribution.setting,
    contribution.value?.toList⟩

end Contribution

namespace Operation

theorem named?_front (operation : Operation) :
    Subcommand.named? (Text.encode operation.subcommand) = some operation.front := by
  rw [Subcommand.named?, Text.decode?_encode]
  cases operation <;> rfl

theorem isRegular_front (operation : Operation) : operation.front.grammar.IsRegular := by
  constructor
  · cases operation <;> decide
  · cases operation <;> decide
  · cases operation <;> decide
  · cases operation <;> decide

end Operation

theorem Binding.reference_plain (binding : Binding) :
    binding.reference.toList.head? ≠ some '-' := by
  have mark : environmentMark.toList = ['@', 'E', 'N', 'V', ':'] := by decide
  rw [reference, String.toList_append, mark]
  exact fun same => absurd (Option.some.inj same) (by decide)

namespace Cli.Grammar.Fits

variable {grammar : Grammar} {position : Nat} {rule : OptionRule} {positional : PositionalRule}
  {trailing : Bool} {word name value : String}

theorem ofFlag (known : grammar.option? name = some rule) (same : rule.name = name)
    (spelled : word = "--" ++ name) (alone : rule.arity = .flag) :
    grammar.Fits false position ⟨[word], name, []⟩ position := by
  subst spelled
  exact same ▸ .flag (same ▸ known) alone

theorem ofAttached (known : grammar.option? name = some rule) (same : rule.name = name)
    (spelled : word = "--" ++ name) (takes : rule.arity ≠ .flag)
    (allowed : rule.allows (Text.encode value) = true) :
    grammar.Fits false position ⟨[word ++ "=" ++ value], name, [value]⟩ position := by
  subst spelled
  exact same ▸ .attached (same ▸ known) takes allowed

theorem ofSeparate (known : grammar.option? name = some rule) (same : rule.name = name)
    (spelled : word = "--" ++ name) (takes : rule.arity ≠ .flag)
    (allowed : rule.allows (Text.encode value) = true) (plain : value.toList.head? ≠ some '-')
    (bounded : rule.arity = .many → grammar.positionals = []) :
    grammar.Fits false position ⟨[word, value], name, [value]⟩ position := by
  subst spelled
  exact same ▸ .separate (same ▸ known) takes allowed plain bounded

theorem ofSinglePositional (known : grammar.positionals[position]? = some positional)
    (same : positional.name = name) (single : positional.multiple = false)
    (plain : value.toList.head? ≠ some '-') :
    grammar.Fits trailing position ⟨[value], name, [value]⟩ (position + 1) := by
  subst same
  have fits : grammar.Fits trailing position _ _ := .positional known plain
  rwa [if_neg (Bool.eq_false_iff.1 single)] at fits

theorem ofPositional (known : grammar.positionals[position]? = some positional)
    (same : positional.name = name) (multiple : positional.multiple = true)
    (plain : value.toList.head? ≠ some '-') :
    grammar.Fits trailing position ⟨[value], name, [value]⟩ position := by
  subst same
  have fits : grammar.Fits trailing position _ _ := .positional known plain
  rwa [if_pos multiple] at fits

end Cli.Grammar.Fits

/-- No two values of a type have the same word. -/
class LawfulKeyword (α : Type) [Keyword α] : Prop where
  distinct : ((Keyword.values : List α).map Keyword.word).Nodup
  listed : ∀ value : α, value ∈ (Keyword.values : List α)

namespace Keyword

theorem read?_word {α : Type} [Keyword α] [LawfulKeyword α] (value : α) :
    Value.read? (word value) = some value := by
  change (values : List α).find? (fun other => word other == word value) = some value
  have distinct := LawfulKeyword.distinct (α := α)
  have listed := LawfulKeyword.listed value
  generalize (values : List α) = options at distinct listed
  induction options with
  | nil => cases listed
  | cons first rest hypothesis =>
      obtain ⟨apart, distinct⟩ := List.nodup_cons.1 distinct
      rcases List.mem_cons.1 listed with rfl | listed
      · simp
      · have other : word first ≠ word value := fun same =>
          apart (same ▸ List.mem_map_of_mem listed)
        rw [List.find?_cons_of_neg (by simpa using other)]
        exact hypothesis distinct listed

end Keyword

instance : LawfulKeyword SignAs := ⟨by decide, fun mode => by cases mode <;> decide⟩

instance : LawfulKeyword InlineSignAs := ⟨by decide, fun mode => by cases mode <;> decide⟩

instance : LawfulKeyword EncryptAs := ⟨by decide, fun mode => by cases mode <;> decide⟩

instance : LawfulKeyword EncryptFor := ⟨by decide, fun purpose => by cases purpose <;> decide⟩

instance : LawfulKeyword ArmorLabel := ⟨by decide, fun label => by cases label <;> decide⟩

theorem TimeBound.read?_render (bound : TimeBound) :
    Value.read? bound.render = some bound.shown := by
  change (TimeBound.parse bound.render).toOption = _
  rw [bound.parse_render]
  rfl

theorem Cli.allows_read {α : Type} [Value α] {text : String} {value : α}
    (read : Value.read? text = some value) :
    (readValue? α (Text.encode text)).isSome = true := by
  simp [readValue?, read]

theorem Cli.allows_text (text : String) :
    (Text.decode? (Text.encode text)).isSome = true := by
  simp

namespace Contribution

variable {operation : Operation} {contribution : Contribution} {word value : String}
  {category : Category} {secret : Bytes} {grammar : Grammar} {trailing : Bool}
  {position next : Nat}

theorem fits_option
    (contributes : operation.pieces contribution.setting = [.option word value])
    (given : contribution.value? = some value)
    (fits : grammar.Fits trailing position
      ⟨[word ++ "=" ++ value], operation.argument contribution.setting, [value]⟩ next) :
    grammar.Fits trailing position (contribution.occurrence operation) next := by
  rw [occurrence, words, contributes, given]
  exact fits

section

variable (sealed : contribution.setting.sealed? = some (category, secret))
  (given : contribution.value? = contribution.binding?.map Binding.reference)
include sealed given

/-- A secret in the value of an option is referred to there. -/
theorem fits_secretOption
    (contributes : operation.pieces contribution.setting = [.secretOption word category secret])
    (fits : ∀ text : String, grammar.Fits trailing position
      ⟨[word ++ "=" ++ text], operation.argument contribution.setting, [text]⟩ next) :
    grammar.Fits trailing position (contribution.occurrence operation) next := by
  rw [occurrence, words, contributes, given, binding?, sealed]
  exact fits _

/-- A secret with a word of its own is referred to there. -/
theorem fits_secret (texts : List String) {piece : Piece}
    (contributes : operation.pieces contribution.setting = texts.map .word ++ [piece])
    (bare : ∀ numbers : Category → Nat,
      piece.token numbers = .reference "" ⟨category, numbers category, secret⟩)
    (fits : ∀ text : String, text.toList.head? ≠ some '-' → grammar.Fits trailing position
      ⟨texts ++ [text], operation.argument contribution.setting, [text]⟩ next) :
    grammar.Fits trailing position (contribution.occurrence operation) next := by
  have plain : (texts.map Piece.word).map
      (fun piece => (piece.token contribution.number).text) = texts := by
    rw [List.map_map]
    exact List.map_id texts
  rw [occurrence, words, contributes, given, binding?, sealed, List.map_append, plain,
    List.map_singleton, bare]
  have text (binding : Binding) : Token.text (.reference "" binding) = binding.reference := by
    simp [Token.text]
  rw [text]
  exact fits _ (Binding.reference_plain _)

end

end Contribution

namespace Operation

variable {operation : Operation} {contribution : Contribution}

/-- The text of a user ID cannot be taken for an option. -/
def IsPlain : Setting → Prop
  | .userId text => text.toList.head? ≠ some '-'
  | _ => True

theorem fits_unsealed (unsealed : contribution.setting.category? = none)
    (accepted : operation.accepts contribution.setting = true)
    (goes : operation.place contribution.setting = .inline)
    (known : ¬ (operation = .updateKey ∧ contribution.setting = .noNewMechanisms))
    (plain : IsPlain contribution.setting) :
    operation.front.grammar.Fits false 0 (contribution.occurrence operation) 0 := by
  obtain ⟨before, setting⟩ := contribution
  unfold accepts at accepted
  cases setting with
  | noArmor =>
      cases operation with
      | validateUserId | verify | inlineVerify | decrypt | armor | dearmor => cases accepted
      | _ => exact .ofFlag rfl rfl rfl rfl
  | signingOnly =>
      cases operation with
      | generateKey | updateKey => exact .ofFlag rfl rfl rfl rfl
      | _ => cases accepted
  | noNewMechanisms =>
      cases operation with
      | updateKey => exact absurd ⟨rfl, rfl⟩ known
      | _ => cases accepted
  | noRequireSelfSig =>
      cases operation with
      | certifyUserId => exact .ofFlag rfl rfl rfl rfl
      | _ => cases accepted
  | addrSpecOnly =>
      cases operation with
      | validateUserId => exact .ofFlag rfl rfl rfl rfl
      | _ => cases accepted
  | userId text =>
      cases operation with
      | generateKey => exact .ofPositional rfl rfl rfl plain
      | certifyUserId =>
          exact .ofSeparate rfl rfl rfl nofun (Cli.allows_text _) plain nofun
      | validateUserId => cases goes
      | _ => cases accepted
  | profile name =>
      refine Contribution.fits_option (only_of_ne_nil accepted) rfl ?_
      cases operation with
      | generateKey | encrypt => exact .ofAttached rfl rfl rfl nofun (Cli.allows_read rfl)
      | _ => cases accepted
  | signAs mode =>
      refine Contribution.fits_option (only_of_ne_nil accepted) rfl ?_
      cases operation with
      | sign =>
          exact .ofAttached rfl rfl rfl nofun (Cli.allows_read (Keyword.read?_word mode))
      | _ => cases accepted
  | inlineSignAs mode =>
      refine Contribution.fits_option (only_of_ne_nil accepted) rfl ?_
      cases operation with
      | inlineSign =>
          exact .ofAttached rfl rfl rfl nofun (Cli.allows_read (Keyword.read?_word mode))
      | _ => cases accepted
  | encryptAs mode =>
      refine Contribution.fits_option (only_of_ne_nil accepted) rfl ?_
      cases operation with
      | encrypt =>
          exact .ofAttached rfl rfl rfl nofun (Cli.allows_read (Keyword.read?_word mode))
      | _ => cases accepted
  | encryptFor purpose =>
      refine Contribution.fits_option (only_of_ne_nil accepted) rfl ?_
      cases operation with
      | encrypt =>
          exact .ofAttached rfl rfl rfl nofun (Cli.allows_read (Keyword.read?_word purpose))
      | _ => cases accepted
  | label label =>
      refine Contribution.fits_option (only_of_ne_nil accepted) rfl ?_
      cases operation with
      | armor =>
          exact .ofAttached rfl rfl rfl nofun (Cli.allows_read (Keyword.read?_word label))
      | _ => cases accepted
  | notBefore bound | notAfter bound =>
      cases operation with
      | verify | inlineVerify | decrypt =>
          exact Contribution.fits_option rfl rfl
            (.ofAttached rfl rfl rfl nofun (Cli.allows_read bound.read?_render))
      | _ => cases accepted
  | validateAt bound =>
      refine Contribution.fits_option (only_of_ne_nil accepted) rfl ?_
      cases operation with
      | validateUserId =>
          exact .ofAttached rfl rfl rfl nofun (Cli.allows_read bound.read?_render)
      | _ => cases accepted
  | _ => cases unsealed

theorem fits_sealed {category : Category}
    (sealed : contribution.setting.category? = some category)
    (accepted : operation.accepts contribution.setting = true)
    (goes : operation.place contribution.setting = .inline) :
    operation.front.grammar.Fits false 0 (contribution.occurrence operation) 0 := by
  obtain ⟨before, setting⟩ := contribution
  unfold accepts at accepted
  cases setting with
  | keyPassword =>
      refine Contribution.fits_secretOption rfl rfl (only_of_ne_nil accepted) fun text => ?_
      cases operation with
      | generateKey => exact .ofAttached rfl rfl rfl nofun (Cli.allows_read rfl)
      | revokeKey | updateKey | certifyUserId | sign | inlineSign | encrypt | decrypt =>
          exact .ofAttached rfl rfl rfl nofun (Cli.allows_text text)
      | _ => cases accepted
  | oldKeyPassword =>
      refine Contribution.fits_secretOption rfl rfl (only_of_ne_nil accepted) fun text => ?_
      cases operation with
      | changeKeyPassword => exact .ofAttached rfl rfl rfl nofun (Cli.allows_text text)
      | _ => cases accepted
  | newKeyPassword =>
      refine Contribution.fits_secretOption rfl rfl (only_of_ne_nil accepted) fun text => ?_
      cases operation with
      | changeKeyPassword => exact .ofAttached rfl rfl rfl nofun (Cli.allows_read rfl)
      | _ => cases accepted
  | password =>
      refine Contribution.fits_secretOption rfl rfl (only_of_ne_nil accepted) fun text => ?_
      cases operation with
      | encrypt | decrypt => exact .ofAttached rfl rfl rfl nofun (Cli.allows_text text)
      | _ => cases accepted
  | sessionKey | verifyWith =>
      refine Contribution.fits_secretOption rfl rfl (only_of_ne_nil accepted) fun text => ?_
      cases operation with
      | decrypt => exact .ofAttached rfl rfl rfl nofun (Cli.allows_text text)
      | _ => cases accepted
  | signWith =>
      refine Contribution.fits_secretOption rfl rfl (only_of_ne_nil accepted) fun text => ?_
      cases operation with
      | encrypt => exact .ofAttached rfl rfl rfl nofun (Cli.allows_text text)
      | _ => cases accepted
  | key =>
      cases operation with
      | sign | inlineSign | decrypt =>
          exact Contribution.fits_secret rfl rfl [] rfl (fun _ => rfl)
            fun _ plain => .ofPositional rfl rfl rfl plain
      | certifyUserId => cases goes
      | _ => cases accepted
  | cert =>
      cases operation with
      | mergeCerts | inlineVerify | encrypt =>
          exact Contribution.fits_secret rfl rfl [] rfl (fun _ => rfl)
            fun _ plain => .ofPositional rfl rfl rfl plain
      | updateKey =>
          exact Contribution.fits_secret rfl rfl ["--merge-certs"] rfl (fun _ => rfl)
            fun text plain =>
              .ofSeparate rfl rfl rfl nofun (Cli.allows_text text) plain fun _ => rfl
      | validateUserId | verify => cases goes
      | _ => cases accepted
  | signatures => cases goes
  | _ => cases sealed

/-- The words of a setting in its place spell an argument of the subcommand. -/
theorem fits_inline (accepted : operation.accepts contribution.setting = true)
    (goes : operation.place contribution.setting = .inline)
    (known : ¬ (operation = .updateKey ∧ contribution.setting = .noNewMechanisms))
    (plain : IsPlain contribution.setting) :
    operation.front.grammar.Fits false 0 (contribution.occurrence operation) 0 := by
  cases sealed : contribution.setting.category? with
  | none => exact fits_unsealed sealed accepted goes known plain
  | some category => exact fits_sealed sealed accepted goes

/-- The keys at the end, after hyphens alone. -/
theorem fits_keys (accepted : certifyUserId.accepts contribution.setting = true)
    (goes : certifyUserId.place contribution.setting = .rest) :
    certifyUserId.front.grammar.Fits true 0 (contribution.occurrence certifyUserId) 0 := by
  obtain ⟨before, setting⟩ := contribution
  unfold accepts at accepted
  cases setting with
  | key =>
      exact Contribution.fits_secret rfl rfl [] rfl (fun _ => rfl)
        fun _ plain => .ofPositional rfl rfl rfl plain
  | cert => cases accepted
  | _ => cases goes

/-- The certificates at the end, after a positional argument. -/
theorem fits_certs (ends : operation = .validateUserId ∨ operation = .verify)
    (accepted : operation.accepts contribution.setting = true)
    (goes : operation.place contribution.setting = .rest) :
    operation.front.grammar.Fits false 1 (contribution.occurrence operation) 1 := by
  obtain ⟨before, setting⟩ := contribution
  unfold accepts at accepted
  cases setting with
  | cert =>
      rcases ends with rfl | rfl <;>
        exact Contribution.fits_secret rfl rfl [] rfl (fun _ => rfl)
          fun _ plain => .ofPositional rfl rfl rfl plain
  | key => rcases ends with rfl | rfl <;> cases accepted
  | userId => rcases ends with rfl | rfl <;> cases goes
  | _ => cases goes

end Operation

end StatelessPgp
