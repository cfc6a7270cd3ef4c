import Mathlib.Data.Option.Basic
import StatelessPgp.Proofs.Verification.Line

/-!
# Records that are put together

A record that is made from a time and two fingerprints, and then given modes and free texts, is
read back from its line unless it has no mode and its free text looks like one.  Its time comes
back as the line shows it.
-/

namespace StatelessPgp

open Text

/-- A text that can stand for a key or for a certificate. -/
structure IsFingerprint (text : String) : Prop where
  filled : text.toList ≠ []
  visible : ∀ character ∈ text.toList, isBlank character = false

theorem IsFingerprint.isTrimmed {text : String} (fingerprint : IsFingerprint text) :
    IsTrimmed text.toList :=
  isTrimmed_of_visible fingerprint.filled fingerprint.visible

instance (text : String) : Decidable (IsFingerprint text) :=
  decidable_of_iff (text.toList ≠ [] ∧ text.toList.all fun character => !isBlank character)
    ⟨fun ⟨filled, visible⟩ => ⟨filled, by simpa using visible⟩,
      fun fingerprint => ⟨fingerprint.filled, by simpa using fingerprint.visible⟩⟩

namespace Verification

theorem isWord_of_fingerprint {text : String} (fingerprint : IsFingerprint text) :
    IsWord text.toList where
  filled := fingerprint.filled
  begins := fingerprint.isTrimmed.begins
  unbroken member := by cases fingerprint.visible ' ' member
  whole member := by cases fingerprint.visible '\n' member

/-- The records that can be put together. -/
inductive Built : Verification → Prop
  | new (time : Timestamp) {key cert : String} (isKey : IsFingerprint key)
      (isCert : IsFingerprint cert) : Built (new time key cert)
  | withMode (mode : SignatureMode) {verification : Verification}
      (built : Built verification) : Built (verification.withMode mode)
  | withDescription (text : String) {verification : Verification}
      (built : Built verification) : Built (verification.withDescription text)

/-- A record without a mode whose free text begins like one. -/
def FeignsMode (verification : Verification) : Prop :=
  verification.mode = none ∧ ∃ text ∈ verification.description, modeMark <+: text.toList

instance (verification : Verification) : Decidable verification.FeignsMode :=
  inferInstanceAs (Decidable (_ ∧ _))

variable {verification : Verification}

theorem Built.fingerprints (built : Built verification) :
    IsFingerprint verification.key ∧ IsFingerprint verification.cert := by
  induction built with
  | new time isKey isCert => exact ⟨isKey, isCert⟩
  | withMode mode built hypothesis => exact hypothesis
  | withDescription text built hypothesis => exact hypothesis

/-- Free text is trimmed when it is given. -/
theorem Built.isTrimmed_description (built : Built verification) :
    ∀ text, verification.description = some text → IsTrimmed text.toList := by
  induction built with
  | new time isKey isCert => exact nofun
  | withMode mode built hypothesis => exact hypothesis
  | withDescription given built hypothesis => exact fun text found => isTrimmed_of_stripped found

theorem Built.wellSpaced (built : Built verification) : verification.WellSpaced where
  key := isWord_of_fingerprint built.fingerprints.1
  cert := isWord_of_fingerprint built.fingerprints.2
  description := built.isTrimmed_description
  cert_ends _ _ := built.fingerprints.2.isTrimmed.ends

/-- The mark of a mode holds no space, so it is found in the first word of a text. -/
theorem isPrefix_word_iff {text : List Char} :
    modeMark <+: (nextWord text).1 ↔ modeMark <+: text := by
  refine ⟨fun inWord => inWord.trans (List.takeWhile_prefix _), ?_⟩
  rintro ⟨rest, rfl⟩
  have unbroken : ∀ character ∈ modeMark, (character != ' ') = true :=
    List.all_eq_true.1 (by decide)
  rw [nextWord, List.takeWhile_append_of_pos unbroken]
  exact List.prefix_append _ _

theorem announcedMode?_eq_none_iff {text : List Char} :
    announcedMode? (nextWord text).1 = none ↔ ¬ modeMark <+: text := by
  rw [announcedMode?, ite_eq_right_iff, List.isPrefixOf_iff_prefix, isPrefix_word_iff]
  exact imp_congr_right fun begins => iff_false_intro (Option.some_ne_none _)

/-- Text that feigns a mode is taken for one, if it names one. -/
theorem WellSpaced.ofLine_written_of_feignsMode (spaced : verification.WellSpaced)
    (feigns : verification.FeignsMode) :
    ∃ text ∈ verification.description, ∃ word, announcedMode? (nextWord text.toList).1 = some word ∧
      ofLine verification.written = (Keyword.parse word).map fun mode =>
        (verification.shown.withMode mode).withDescription
          (String.ofList (nextWord text.toList).2) := by
  obtain ⟨mode, text, description, begins⟩ := feigns
  obtain ⟨word, announced⟩ : ∃ word, announcedMode? (nextWord text.toList).1 = some word :=
    Option.ne_none_iff_exists'.1 fun none => announcedMode?_eq_none_iff.1 none begins
  have remains : verification.remainder = text.toList := by
    rw [remainder, mode, description]
  refine ⟨text, description, word, announced, ?_⟩
  rw [spaced.ofLine_written_eq, remains, announced]
  rfl

end Verification

end StatelessPgp
