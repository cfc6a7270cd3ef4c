import StatelessPgp.Proofs.Cli.Fields

/-!
# Tasks that are handed over

From the arguments that it is handed, the subcommand of an operation makes one task: every
field holds the values of the settings that are meant for it, in the order in which they were
given.
-/

namespace StatelessPgp

open Cli

namespace Setting

def profile? : Setting → Option String
  | .profile name => some name
  | _ => none

def signAs? : Setting → Option SignAs
  | .signAs mode => some mode
  | _ => none

def inlineSignAs? : Setting → Option InlineSignAs
  | .inlineSignAs mode => some mode
  | _ => none

def encryptAs? : Setting → Option EncryptAs
  | .encryptAs mode => some mode
  | _ => none

def encryptFor? : Setting → Option EncryptFor
  | .encryptFor purpose => some purpose
  | _ => none

def label? : Setting → Option ArmorLabel
  | .label named => some named
  | _ => none

def notBefore? : Setting → Option TimeBound
  | .notBefore bound => some bound
  | _ => none

def notAfter? : Setting → Option TimeBound
  | .notAfter bound => some bound
  | _ => none

def validateAt? : Setting → Option TimeBound
  | .validateAt bound => some bound
  | _ => none

end Setting

namespace Operation

/-- The task that an operation with settings is.  Secrets are named by the variables that
carry them, and side channels by their paths; times are written without a fraction of a
second. -/
def task (operation : Operation) (directory : Path) (settings : List Setting) : Task :=
  let noArmor := settings.contains .noArmor
  let userIds := settings.filterMap Setting.userId?
  let profile := settings.findSome? Setting.profile?
  let notBefore := (settings.findSome? Setting.notBefore?).map TimeBound.shown
  let notAfter := (settings.findSome? Setting.notAfter?).map TimeBound.shown
  let secrets (kind : Bytes → Setting) := Contribution.references (kind []) settings
  match operation with
  | .generateKey =>
      .generateKey noArmor (secrets .keyPassword).head? profile
        (settings.contains .signingOnly) userIds
  | .extractCert => .extractCert noArmor
  | .revokeKey => .revokeKey noArmor (secrets .keyPassword)
  | .changeKeyPassword =>
      .changeKeyPassword noArmor (secrets .newKeyPassword).head? (secrets .oldKeyPassword)
  | .updateKey =>
      .updateKey noArmor (settings.contains .signingOnly) (settings.contains .noNewMechanisms)
        (secrets .keyPassword) (secrets .cert)
  | .mergeCerts => .mergeCerts noArmor (secrets .cert)
  | .certifyUserId =>
      .certifyUserId noArmor userIds (secrets .keyPassword)
        (settings.contains .noRequireSelfSig) (secrets .key)
  | .validateUserId =>
      .validateUserId (settings.contains .addrSpecOnly)
        ((settings.findSome? Setting.validateAt?).map TimeBound.shown)
        (userIds.getLast?.getD "") (secrets .cert)
  | .sign =>
      .sign noArmor (settings.findSome? Setting.signAs?) (secrets .keyPassword)
        (some (channelPath directory .micAlg)) (secrets .key)
  | .inlineSign =>
      .inlineSign noArmor (settings.findSome? Setting.inlineSignAs?) (secrets .keyPassword)
        (secrets .key)
  | .inlineDetach => .inlineDetach noArmor (channelPath directory .signatures)
  | .verify =>
      .verify notBefore notAfter ((secrets .signatures).getLast?.getD "") (secrets .cert)
  | .inlineVerify =>
      .inlineVerify notBefore notAfter (some (channelPath directory .verifications))
        (secrets .cert)
  | .encrypt =>
      .encrypt
        { noArmor
          mode := settings.findSome? Setting.encryptAs?
          purpose := settings.findSome? Setting.encryptFor?
          passwords := secrets .password
          signers := secrets .signWith
          keyPasswords := secrets .keyPassword
          sessionKeyOut := some (channelPath directory .sessionKey)
          profile
          certs := secrets .cert }
  | .decrypt =>
      .decrypt
        { sessionKeyOut := some (channelPath directory .sessionKey)
          sessionKeys := Contribution.references (.sessionKey ⟨0, []⟩) settings
          passwords := secrets .password
          verificationsOut :=
            if settings.any isVerifyWith then some (channelPath directory .verifications)
            else none
          verifiers := secrets .verifyWith
          notBefore
          notAfter
          keyPasswords := secrets .keyPassword
          keys := secrets .key }
  | .armor => .armor (settings.findSome? Setting.label?)
  | .dearmor => .dearmor

variable {operation : Operation} {settings : List Setting} {directory : Path}

section

variable (offered : ∀ setting ∈ settings, operation.accepts setting = true)
include offered

theorem all_userIds (accepted : operation.accepts (.userId "") = true)
    (later : operation.place (.userId "") ≠ .first) :
    (operation.handed directory settings).all (operation.argument (.userId "")) =
      settings.filterMap Setting.userId? :=
  all_texts offered _ accepted later _ <| by
    rintro ⟨_, setting⟩
    cases setting <;> rfl

theorem has_noArmor (accepted : operation.accepts .noArmor = true) :
    (operation.handed directory settings).has "no-armor" = settings.contains .noArmor :=
  has_flag offered .noArmor (.head _) accepted

theorem all_keyPasswords (accepted : operation.accepts (.keyPassword []) = true) :
    (operation.handed directory settings).all "with-key-password" =
      Contribution.references (.keyPassword []) settings :=
  all_references offered (.keyPassword []) accepted (by simp [place]) rfl

theorem all_keys (accepted : operation.accepts (.key []) = true) :
    (operation.handed directory settings).all "keys" = Contribution.references (.key []) settings :=
  all_references offered (.key []) accepted (by simp only [place]; split <;> decide) rfl

theorem value?_profile (accepted : operation.accepts (.profile "") = true) :
    ((operation.handed directory settings).value? "profile" : Option String) =
      settings.findSome? Setting.profile? := by
  have values (contribution : Contribution) :
      (if Setting.isLike (.profile "") contribution.setting then contribution.value? else none) =
        (Setting.profile? contribution.setting).map id := by
    obtain ⟨_, setting⟩ := contribution
    cases setting <;> rfl
  have written : ((operation.handed directory settings).value? "profile" : Option String) = _ :=
    value?_written offered (.profile "") accepted (by simp [place]) Setting.profile? id id values
      fun _ => rfl
  rwa [Option.map_id] at written

/-- The value of an option of which each value has a word. -/
theorem value?_mode {α : Type} [Keyword α] [LawfulKeyword α] (kind : Setting)
    (accepted : operation.accepts kind = true) (later : operation.place kind ≠ .first)
    (extract : Setting → Option α)
    (values : ∀ contribution : Contribution,
      (if kind.isLike contribution.setting then contribution.value? else none) =
        (extract contribution.setting).map Keyword.word) :
    ((operation.handed directory settings).value? (operation.argument kind) : Option α) =
      settings.findSome? extract := by
  rw [value?_written offered kind accepted later extract Keyword.word id values
    Keyword.read?_word, Option.map_id]
  rfl

theorem value?_bound (kind : Setting) (accepted : operation.accepts kind = true)
    (later : operation.place kind ≠ .first) (extract : Setting → Option TimeBound)
    (values : ∀ contribution : Contribution,
      (if kind.isLike contribution.setting then contribution.value? else none) =
        (extract contribution.setting).map TimeBound.render) :
    ((operation.handed directory settings).value? (operation.argument kind) :
      Option TimeBound) = (settings.findSome? extract).map TimeBound.shown :=
  value?_written offered kind accepted later extract TimeBound.render TimeBound.shown values
    TimeBound.read?_render

theorem value?_notBefore (accepted : operation.accepts (.notBefore .now) = true) :
    ((operation.handed directory settings).value? (operation.argument (.notBefore .now)) :
      Option TimeBound) =
        (settings.findSome? Setting.notBefore?).map TimeBound.shown :=
  value?_bound offered (.notBefore .now) accepted (by simp [place]) Setting.notBefore? <| by
    rintro ⟨_, setting⟩
    cases setting <;> rfl

theorem value?_notAfter (accepted : operation.accepts (.notAfter .now) = true) :
    ((operation.handed directory settings).value? (operation.argument (.notAfter .now)) :
      Option TimeBound) =
        (settings.findSome? Setting.notAfter?).map TimeBound.shown :=
  value?_bound offered (.notAfter .now) accepted (by simp [place]) Setting.notAfter? <| by
    rintro ⟨_, setting⟩
    cases setting <;> rfl

end

theorem request_generateKey (offered : ∀ setting ∈ settings, generateKey.accepts setting = true) :
    generateKey.front.request (generateKey.handed directory settings) =
      .operate (generateKey.task directory settings) := by
  have keyPassword : ((generateKey.handed directory settings).value? "with-key-password" :
      Option String) = _ :=
    value?_reference offered (.keyPassword []) rfl (by decide) rfl
  have profile : ((generateKey.handed directory settings).value? "profile" : Option String) = _ :=
    value?_profile offered rfl
  have signingOnly : (generateKey.handed directory settings).has "signing-only" = _ :=
    has_flag offered .signingOnly (by simp) rfl
  have userIds : (generateKey.handed directory settings).all "user-ids" = _ :=
    all_userIds offered rfl (by decide)
  simp only [front, Subcommand.generateKey, task, has_noArmor offered rfl, keyPassword, profile,
    signingOnly, userIds]

theorem request_extractCert (offered : ∀ setting ∈ settings, extractCert.accepts setting = true) :
    extractCert.front.request (extractCert.handed directory settings) =
      .operate (extractCert.task directory settings) := by
  simp only [front, Subcommand.extractCert, task, has_noArmor offered rfl]

theorem request_revokeKey (offered : ∀ setting ∈ settings, revokeKey.accepts setting = true) :
    revokeKey.front.request (revokeKey.handed directory settings) =
      .operate (revokeKey.task directory settings) := by
  simp only [front, Subcommand.revokeKey, task, has_noArmor offered rfl,
    all_keyPasswords offered rfl]

theorem request_changeKeyPassword
    (offered : ∀ setting ∈ settings, changeKeyPassword.accepts setting = true) :
    changeKeyPassword.front.request (changeKeyPassword.handed directory settings) =
      .operate (changeKeyPassword.task directory settings) := by
  have newPassword : ((changeKeyPassword.handed directory settings).value? "new-key-password" :
      Option String) = _ :=
    value?_reference offered (.newKeyPassword []) rfl (by decide) rfl
  have oldPasswords : (changeKeyPassword.handed directory settings).all "old-key-password" = _ :=
    all_references offered (.oldKeyPassword []) rfl (by decide) rfl
  simp only [front, Subcommand.changeKeyPassword, task, has_noArmor offered rfl, newPassword,
    oldPasswords]

theorem request_updateKey (offered : ∀ setting ∈ settings, updateKey.accepts setting = true) :
    updateKey.front.request (updateKey.handed directory settings) =
      .operate (updateKey.task directory settings) := by
  have signingOnly : (updateKey.handed directory settings).has "signing-only" = _ :=
    has_flag offered .signingOnly (by simp) rfl
  have noNewMechanisms : (updateKey.handed directory settings).has "no-added-capabilities" = _ :=
    has_flag offered .noNewMechanisms (by simp) rfl
  have certs : (updateKey.handed directory settings).all "merge-certs" = _ :=
    all_references offered (.cert []) rfl (by decide) rfl
  simp only [front, Subcommand.updateKey, task, has_noArmor offered rfl, signingOnly,
    noNewMechanisms, all_keyPasswords offered rfl, certs]

theorem request_mergeCerts (offered : ∀ setting ∈ settings, mergeCerts.accepts setting = true) :
    mergeCerts.front.request (mergeCerts.handed directory settings) =
      .operate (mergeCerts.task directory settings) := by
  have certs : (mergeCerts.handed directory settings).all "certs" = _ :=
    all_references offered (.cert []) rfl (by decide) rfl
  simp only [front, Subcommand.mergeCerts, task, has_noArmor offered rfl, certs]

theorem request_certifyUserId
    (offered : ∀ setting ∈ settings, certifyUserId.accepts setting = true) :
    certifyUserId.front.request (certifyUserId.handed directory settings) =
      .operate (certifyUserId.task directory settings) := by
  have userIds : (certifyUserId.handed directory settings).all "userid" = _ :=
    all_userIds offered rfl (by decide)
  have noRequireSelfSig : (certifyUserId.handed directory settings).has "no-require-self-sig" = _ :=
    has_flag offered .noRequireSelfSig (by simp) rfl
  simp only [front, Subcommand.certifyUserId, task, has_noArmor offered rfl, userIds,
    all_keyPasswords offered rfl, noRequireSelfSig, all_keys offered rfl]

theorem request_validateUserId
    (offered : ∀ setting ∈ settings, validateUserId.accepts setting = true) :
    validateUserId.front.request (validateUserId.handed directory settings) =
      .operate (validateUserId.task directory settings) := by
  have addrSpecOnly : (validateUserId.handed directory settings).has "addr-spec-only" = _ :=
    has_flag offered .addrSpecOnly (by simp) rfl
  have validateAt : ((validateUserId.handed directory settings).value? "validate-at" :
      Option TimeBound) = _ :=
    value?_bound offered (.validateAt .now) rfl (by decide) Setting.validateAt? <| by
      rintro ⟨_, setting⟩
      cases setting <;> rfl
  have userId : ((validateUserId.handed directory settings).value? "user-id" : Option String) =
      (settings.filterMap Setting.userId?).getLast? := by
    rw [value?_other offered (by decide)]
    cases given : (settings.filterMap Setting.userId?).getLast? <;>
      simp [leading, given, Occurrence.named, reported, channelOptions]
  have certs : (validateUserId.handed directory settings).all "authorities" = _ :=
    all_references offered (.cert []) rfl (by decide) rfl
  simp only [front, Subcommand.validateUserId, Arguments.required, task, addrSpecOnly, validateAt,
    userId, certs]

theorem request_sign (offered : ∀ setting ∈ settings, sign.accepts setting = true) :
    sign.front.request (sign.handed directory settings) =
      .operate (sign.task directory settings) := by
  have mode : ((sign.handed directory settings).value? "as" : Option SignAs) = _ :=
    value?_mode offered (.signAs .binary) rfl (by decide) Setting.signAs? <| by
      rintro ⟨_, setting⟩
      cases setting <;> rfl
  have digest : ((sign.handed directory settings).value? "micalg-out" : Option String) =
      some (channelPath directory .micAlg) :=
    value?_other offered (by decide)
  simp only [front, Subcommand.sign, task, has_noArmor offered rfl, mode,
    all_keyPasswords offered rfl, digest, all_keys offered rfl]

theorem request_inlineSign (offered : ∀ setting ∈ settings, inlineSign.accepts setting = true) :
    inlineSign.front.request (inlineSign.handed directory settings) =
      .operate (inlineSign.task directory settings) := by
  have mode : ((inlineSign.handed directory settings).value? "as" : Option InlineSignAs) = _ :=
    value?_mode offered (.inlineSignAs .binary) rfl (by decide) Setting.inlineSignAs? <| by
      rintro ⟨_, setting⟩
      cases setting <;> rfl
  simp only [front, Subcommand.inlineSign, task, has_noArmor offered rfl, mode,
    all_keyPasswords offered rfl, all_keys offered rfl]

theorem request_inlineDetach (offered : ∀ setting ∈ settings, inlineDetach.accepts setting = true) :
    inlineDetach.front.request (inlineDetach.handed directory settings) =
      .operate (inlineDetach.task directory settings) := by
  have signatures : ((inlineDetach.handed directory settings).value? "signatures-out" :
      Option String) = some (channelPath directory .signatures) :=
    value?_other offered (by decide)
  simp only [front, Subcommand.inlineDetach, Arguments.required, Option.getD_some, task,
    has_noArmor offered rfl, signatures]

theorem request_verify (offered : ∀ setting ∈ settings, verify.accepts setting = true) :
    verify.front.request (verify.handed directory settings) =
      .operate (verify.task directory settings) := by
  have notBefore : ((verify.handed directory settings).value? "not-before" :
      Option TimeBound) = _ :=
    value?_notBefore offered rfl
  have notAfter : ((verify.handed directory settings).value? "not-after" : Option TimeBound) = _ :=
    value?_notAfter offered rfl
  have signature : ((verify.handed directory settings).value? "signature" : Option String) =
      (Contribution.references (.signatures []) settings).getLast? := by
    rw [value?_other offered (by decide)]
    cases given : (Contribution.references (.signatures []) settings).getLast? <;>
      simp [leading, given, Occurrence.named, reported, channelOptions]
  have certs : (verify.handed directory settings).all "certs" = _ :=
    all_references offered (.cert []) rfl (by decide) rfl
  simp only [front, Subcommand.verify, Arguments.required, task, notBefore, notAfter, signature,
    certs]

theorem request_inlineVerify (offered : ∀ setting ∈ settings, inlineVerify.accepts setting = true) :
    inlineVerify.front.request (inlineVerify.handed directory settings) =
      .operate (inlineVerify.task directory settings) := by
  have notBefore : ((inlineVerify.handed directory settings).value? "not-before" :
      Option TimeBound) = _ :=
    value?_notBefore offered rfl
  have notAfter : ((inlineVerify.handed directory settings).value? "not-after" :
      Option TimeBound) = _ :=
    value?_notAfter offered rfl
  have verifications : ((inlineVerify.handed directory settings).value? "verifications-out" :
      Option String) = some (channelPath directory .verifications) :=
    value?_other offered (by decide)
  have certs : (inlineVerify.handed directory settings).all "certs" = _ :=
    all_references offered (.cert []) rfl (by decide) rfl
  simp only [front, Subcommand.inlineVerify, task, notBefore, notAfter, verifications, certs]

theorem request_encrypt (offered : ∀ setting ∈ settings, encrypt.accepts setting = true) :
    encrypt.front.request (encrypt.handed directory settings) =
      .operate (encrypt.task directory settings) := by
  have mode : ((encrypt.handed directory settings).value? "as" : Option EncryptAs) = _ :=
    value?_mode offered (.encryptAs .binary) rfl (by decide) Setting.encryptAs? <| by
      rintro ⟨_, setting⟩
      cases setting <;> rfl
  have purpose : ((encrypt.handed directory settings).value? "for" : Option EncryptFor) = _ :=
    value?_mode offered (.encryptFor .any) rfl (by decide) Setting.encryptFor? <| by
      rintro ⟨_, setting⟩
      cases setting <;> rfl
  have passwords : (encrypt.handed directory settings).all "with-password" = _ :=
    all_references offered (.password []) rfl (by decide) rfl
  have signers : (encrypt.handed directory settings).all "sign-with" = _ :=
    all_references offered (.signWith []) rfl (by decide) rfl
  have sessionKey : ((encrypt.handed directory settings).value? "session-key-out" : Option String) =
      some (channelPath directory .sessionKey) :=
    value?_other offered (by decide)
  have profile : ((encrypt.handed directory settings).value? "profile" : Option String) = _ :=
    value?_profile offered rfl
  have certs : (encrypt.handed directory settings).all "certs" = _ :=
    all_references offered (.cert []) rfl (by decide) rfl
  simp only [front, Subcommand.encrypt, task, has_noArmor offered rfl, mode, purpose, passwords,
    signers, all_keyPasswords offered rfl, sessionKey, profile, certs]

theorem request_decrypt (offered : ∀ setting ∈ settings, decrypt.accepts setting = true) :
    decrypt.front.request (decrypt.handed directory settings) =
      .operate (decrypt.task directory settings) := by
  have sessionKey : ((decrypt.handed directory settings).value? "session-key-out" :
      Option String) = some (channelPath directory .sessionKey) := by
    rw [value?_other offered (by decide), reported, channelOptions]
    split <;> rfl
  have sessionKeys : (decrypt.handed directory settings).all "with-session-key" = _ :=
    all_references offered (.sessionKey ⟨0, []⟩) rfl (by decide) rfl
  have passwords : (decrypt.handed directory settings).all "with-password" = _ :=
    all_references offered (.password []) rfl (by decide) rfl
  have verifications : ((decrypt.handed directory settings).value? "verifications-out" :
      Option String) =
        if settings.any isVerifyWith then some (channelPath directory .verifications)
        else none := by
    rw [value?_other offered (by decide), reported, channelOptions]
    split <;> rfl
  have verifiers : (decrypt.handed directory settings).all "verify-with" = _ :=
    all_references offered (.verifyWith []) rfl (by decide) rfl
  have notBefore : ((decrypt.handed directory settings).value? "verify-not-before" :
      Option TimeBound) = _ :=
    value?_notBefore offered rfl
  have notAfter : ((decrypt.handed directory settings).value? "verify-not-after" :
      Option TimeBound) = _ :=
    value?_notAfter offered rfl
  simp only [front, Subcommand.decrypt, task, sessionKey, sessionKeys, passwords, verifications,
    verifiers, notBefore, notAfter, all_keyPasswords offered rfl, all_keys offered rfl]

theorem request_armor (offered : ∀ setting ∈ settings, armor.accepts setting = true) :
    armor.front.request (armor.handed directory settings) =
      .operate (armor.task directory settings) := by
  have label : ((armor.handed directory settings).value? "label" : Option ArmorLabel) = _ :=
    value?_mode offered (.label .auto) rfl (by decide) Setting.label? <| by
      rintro ⟨_, setting⟩
      cases setting <;> rfl
  simp only [front, Subcommand.armor, task, label]

/-- A subcommand makes of the arguments that it is given for an operation the task that the
operation is. -/
theorem request_handed (offered : ∀ setting ∈ settings, operation.accepts setting = true) :
    operation.front.request (operation.handed directory settings) =
      .operate (operation.task directory settings) := by
  cases operation with
  | generateKey => exact request_generateKey offered
  | extractCert => exact request_extractCert offered
  | revokeKey => exact request_revokeKey offered
  | changeKeyPassword => exact request_changeKeyPassword offered
  | updateKey => exact request_updateKey offered
  | mergeCerts => exact request_mergeCerts offered
  | certifyUserId => exact request_certifyUserId offered
  | validateUserId => exact request_validateUserId offered
  | sign => exact request_sign offered
  | inlineSign => exact request_inlineSign offered
  | inlineDetach => exact request_inlineDetach offered
  | verify => exact request_verify offered
  | inlineVerify => exact request_inlineVerify offered
  | encrypt => exact request_encrypt offered
  | decrypt => exact request_decrypt offered
  | armor => exact request_armor offered
  | dearmor => rfl

end Operation

end StatelessPgp
