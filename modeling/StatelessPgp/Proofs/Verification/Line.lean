import StatelessPgp.Proofs.Time.Written
import StatelessPgp.Verification.Basic

/-!
# The line of a record

A record whose words hold no spaces and whose free text is trimmed is cut at the same places
when its line is read.  What follows the two fingerprints is then taken for a mode if it
begins like one, and for free text otherwise.
-/

namespace StatelessPgp

open Text

namespace Verification

/-- A text that is read as one word wherever it is put. -/
structure IsWord (text : List Char) : Prop where
  filled : text ≠ []
  begins : BeginsVisibly text
  unbroken : ' ' ∉ text
  whole : '\n' ∉ text

/-- A record whose parts keep apart in its line.  Without a mode and free text, what is blank at
the end of the last word would be lost. -/
structure WellSpaced (verification : Verification) : Prop where
  key : IsWord verification.key.toList
  cert : IsWord verification.cert.toList
  description : ∀ text, verification.description = some text → IsTrimmed text.toList
  cert_ends : verification.mode = none → verification.description = none →
    EndsVisibly verification.cert.toList

/-- The record with the time that is shown in its line. -/
def shown (verification : Verification) : Verification :=
  { verification with time := verification.time.shown }

theorem description_shown (verification : Verification) :
    verification.shown.description = verification.description :=
  rfl

theorem shown_of_isRegular {verification : Verification}
    (regular : verification.time.IsRegular) :
    verification.shown = { verification with time := verification.time.truncate } := by
  rw [shown, Timestamp.shown_of_isRegular regular]

theorem parse_render (verification : Verification) :
    parse verification.render = ofLine verification.written := by
  rw [parse, render, String.toList_ofList]

variable {line : List Char} {verification : Verification}

section

variable {date afterDate key afterKey cert rest : List Char}

/-- A line is read word by word. -/
theorem ofLine_eq (first : nextWord (trim line) = (date, afterDate))
    (second : nextWord afterDate = (key, afterKey))
    (third : nextWord afterKey = (cert, rest)) :
    ofLine line =
      if date.isEmpty || key.isEmpty || cert.isEmpty then .error (malformed (trim line))
      else (Timestamp.parse (String.ofList date)).bind fun time =>
        let record := new time (String.ofList key) (String.ofList cert)
        match announcedMode? (nextWord rest).1 with
        | some word => (Keyword.parse word).map fun mode =>
            (record.withMode mode).withDescription (String.ofList (nextWord rest).2)
        | none => .ok (record.withDescription (String.ofList rest)) := by
  rw [ofLine, first]
  dsimp only
  rw [second]
  dsimp only
  rw [third]
  dsimp only
  split
  · rfl
  · cases Timestamp.parse (String.ofList date) with
    | error failure => rfl
    | ok time =>
        dsimp only [bind, Except.bind]
        cases announcedMode? (nextWord rest).1 with
        | none => rfl
        | some word =>
            dsimp only
            cases (Keyword.parse word : Except Failure SignatureMode) <;> rfl

end

/-- What is written after the two fingerprints and a space. -/
def remainder (verification : Verification) : List Char :=
  match verification.mode, verification.description with
  | none, none => []
  | none, some text => text.toList
  | some mode, none => modeMark ++ (Keyword.word mode).toList
  | some mode, some text => modeMark ++ (Keyword.word mode).toList ++ ' ' :: text.toList

theorem isWord_mode (mode : SignatureMode) :
    IsWord (modeMark ++ (Keyword.word mode).toList) := by
  have begins : BeginsVisibly (modeMark ++ (Keyword.word mode).toList) := by
    intro character first
    cases first
    decide
  refine ⟨nofun, begins, ?_, ?_⟩ <;> cases mode <;> decide

theorem endsVisibly_mode (mode : SignatureMode) :
    EndsVisibly (modeMark ++ (Keyword.word mode).toList) := by
  intro character last
  cases mode <;> cases last <;> decide

theorem parse_announcedMode (mode : SignatureMode) :
    announcedMode? (modeMark ++ (Keyword.word mode).toList) = some (Keyword.word mode) ∧
      Keyword.parse (Keyword.word mode) = .ok mode := by
  cases mode <;> decide

namespace WellSpaced

variable (spaced : verification.WellSpaced)
include spaced

/-- The parts of what is written after the fingerprints, of which each may be missing. -/
theorem remainder_cases :
    verification.mode = none ∧ verification.description = none ∧
        verification.remainder = [] ∨
      (∃ text, verification.mode = none ∧ verification.description = some text ∧
        verification.remainder = text.toList ∧ IsTrimmed text.toList) ∨
      (∃ mode, verification.mode = some mode ∧ verification.description = none ∧
        verification.remainder = modeMark ++ (Keyword.word mode).toList) ∨
      ∃ mode text, verification.mode = some mode ∧ verification.description = some text ∧
        verification.remainder = modeMark ++ (Keyword.word mode).toList ++ ' ' :: text.toList ∧
        IsTrimmed text.toList := by
  rw [remainder]
  cases verification.mode with
  | none =>
      cases description : verification.description with
      | none => exact .inl ⟨rfl, rfl, rfl⟩
      | some text =>
          exact .inr (.inl ⟨text, rfl, rfl, rfl, spaced.description text description⟩)
  | some mode =>
      cases description : verification.description with
      | none => exact .inr (.inr (.inl ⟨mode, rfl, rfl, rfl⟩))
      | some text =>
          exact .inr (.inr (.inr ⟨mode, text, rfl, rfl, rfl,
            spaced.description text description⟩))

theorem written_eq :
    verification.written =
      verification.time.written ++ ' ' :: (verification.key.toList ++
        ' ' :: (verification.cert.toList ++
          if verification.remainder = [] then [] else ' ' :: verification.remainder)) := by
  rw [written]
  rcases spaced.remainder_cases with ⟨mode, description, bare⟩ |
    ⟨text, mode, description, plain, trimmed⟩ | ⟨mode, moded, description, alone⟩ |
    ⟨mode, text, moded, description, both, trimmed⟩
  · simp [mode, description, bare]
  · simp [mode, description, plain, trimmed.filled]
  · simp [moded, description, alone, (isWord_mode mode).filled]
  · simp [moded, description, both]

theorem beginsVisibly_remainder : BeginsVisibly verification.remainder := by
  rcases spaced.remainder_cases with ⟨-, -, bare⟩ | ⟨text, -, -, plain, trimmed⟩ |
    ⟨mode, -, -, alone⟩ | ⟨mode, text, -, -, both, trimmed⟩
  · rw [bare]
    exact nofun
  · rw [plain]
    exact trimmed.begins
  · rw [alone]
    exact (isWord_mode mode).begins
  · rw [both]
    exact (isWord_mode mode).begins.append (isWord_mode mode).filled _

theorem endsVisibly_remainder : EndsVisibly verification.remainder := by
  rcases spaced.remainder_cases with ⟨-, -, bare⟩ | ⟨text, -, -, plain, trimmed⟩ |
    ⟨mode, -, -, alone⟩ | ⟨mode, text, -, -, both, trimmed⟩
  · rw [bare]
    exact nofun
  · rw [plain]
    exact trimmed.ends
  · rw [alone]
    exact endsVisibly_mode mode
  · rw [both, List.append_cons]
    exact trimmed.ends.append trimmed.filled _

theorem nextWord_cert :
    nextWord (verification.cert.toList ++
      if verification.remainder = [] then [] else ' ' :: verification.remainder) =
        (verification.cert.toList, verification.remainder) := by
  split
  · next bare =>
      rw [List.append_nil, bare]
      exact nextWord_of_unbroken spaced.cert.unbroken
  · exact nextWord_append spaced.cert.unbroken spaced.beginsVisibly_remainder

theorem beginsVisibly_written : BeginsVisibly verification.written := by
  rw [spaced.written_eq]
  exact verification.time.beginsVisibly_written.append verification.time.written_ne_nil _

theorem endsVisibly_written : EndsVisibly verification.written := by
  have ends : EndsVisibly (verification.cert.toList ++
      if verification.remainder = [] then [] else ' ' :: verification.remainder) := by
    split
    · next bare =>
        rw [List.append_nil]
        rcases spaced.remainder_cases with ⟨mode, description, -⟩ |
          ⟨text, -, -, plain, trimmed⟩ | ⟨mode, -, -, alone⟩ | ⟨mode, text, -, -, both, trimmed⟩
        · exact spaced.cert_ends mode description
        · exact absurd (plain.symm.trans bare) trimmed.filled
        · exact absurd (alone.symm.trans bare) (isWord_mode mode).filled
        · exact absurd (both.symm.trans bare) (by simp)
    · next filled =>
        rw [List.append_cons]
        exact spaced.endsVisibly_remainder.append filled _
  rw [spaced.written_eq, List.append_cons, ← List.append_assoc, List.append_cons]
  exact ends.append (by simp [spaced.cert.filled]) _

/-- The line is cut into the words that it was written from, and the rest of it is read as a
mode and free text, or as free text alone. -/
theorem ofLine_written_eq : ofLine verification.written =
    let record := new verification.time.shown verification.key verification.cert
    match announcedMode? (nextWord verification.remainder).1 with
    | some word => (Keyword.parse word).map fun mode =>
        (record.withMode mode).withDescription (String.ofList (nextWord verification.remainder).2)
    | none => .ok (record.withDescription (String.ofList verification.remainder)) := by
  have trimmed := trim_eq_self spaced.beginsVisibly_written spaced.endsVisibly_written
  have first : nextWord (trim verification.written) =
      (verification.time.written, verification.key.toList ++
        ' ' :: (verification.cert.toList ++
          if verification.remainder = [] then [] else ' ' :: verification.remainder)) := by
    rw [trimmed, spaced.written_eq]
    exact nextWord_append (verification.time.not_mem_written (by decide))
      (spaced.key.begins.append spaced.key.filled _)
  have second := nextWord_append spaced.key.unbroken
    (spaced.cert.begins.append spaced.cert.filled
      (if verification.remainder = [] then [] else ' ' :: verification.remainder))
  have parsed : Timestamp.parse (String.ofList verification.time.written) =
      .ok verification.time.shown := verification.time.parse_render
  have filled : (verification.time.written.isEmpty || verification.key.toList.isEmpty ||
      verification.cert.toList.isEmpty) = false := by
    simp [verification.time.written_ne_nil, spaced.key.filled, spaced.cert.filled]
  rw [ofLine_eq first second spaced.nextWord_cert, parsed, filled, if_neg Bool.false_ne_true]
  dsimp only [Except.bind]
  rw [String.ofList_toList, String.ofList_toList]

/-- The line is read as the record if no free text is taken for a mode. -/
theorem ofLine_written (unannounced : verification.mode = none → ∀ text,
    verification.description = some text → announcedMode? (nextWord text.toList).1 = none) :
    ofLine verification.written = .ok verification.shown := by
  rw [spaced.ofLine_written_eq]
  rcases spaced.remainder_cases with ⟨mode, description, bare⟩ |
    ⟨text, mode, description, plain, trimmed⟩ | ⟨mode, moded, description, alone⟩ |
    ⟨mode, text, moded, description, both, trimmed⟩
  · have silent : announcedMode? (nextWord []).1 = none := by decide
    have blank : stripped? (String.ofList []) = none := by decide
    rw [bare, silent]
    simp only [withDescription, blank, new, shown, mode, description]
  · have silent := unannounced mode text description
    rw [plain, silent, String.ofList_toList]
    simp only [withDescription, trimmed.stripped?_eq, new, shown, mode, description]
  · obtain ⟨announced, found⟩ := parse_announcedMode mode
    have blank : stripped? (String.ofList []) = none := by decide
    rw [alone, nextWord_of_unbroken (isWord_mode mode).unbroken, announced]
    simp only [found, Except.map, withDescription, withMode, blank, new, shown, moded,
      description]
  · obtain ⟨announced, found⟩ := parse_announcedMode mode
    rw [both, nextWord_append (isWord_mode mode).unbroken trimmed.begins, announced]
    simp only [found, String.ofList_toList, Except.map, withDescription, withMode,
      trimmed.stripped?_eq, new, shown, moded, description]

theorem written_ne_nil : verification.written ≠ [] := by
  rw [spaced.written_eq]
  exact List.append_ne_nil_of_left_ne_nil verification.time.written_ne_nil _

end WellSpaced

theorem written_shown (verification : Verification) :
    verification.shown.written = verification.written := by
  rw [written, written, shown]
  dsimp only
  rw [verification.time.written_shown]

end Verification

end StatelessPgp
