import StatelessPgp.Proofs.Traversal
import StatelessPgp.Proofs.Verification.Line

/-!
# Relaying verifications

Records that were read from a text can be written and read again: each gives one line, the
line is cut at the same places, and its words mean the same.  Only the fraction of a second
is lost, for it is not written.
-/

namespace StatelessPgp

open Text

namespace Verification

/-- A record whose line can be read again.  Without a mode, the free text must not announce
one, and without either, what is blank at the end of the last word would be lost. -/
structure Relayable (verification : Verification) : Prop where
  key : IsWord verification.key.toList
  cert : IsWord verification.cert.toList
  description : ∀ text, verification.description = some text → IsFreeText text.toList
  unannounced : verification.mode = none → ∀ text, verification.description = some text →
    announcedMode? (nextWord text.toList).1 = none
  cert_ends : verification.mode = none → verification.description = none →
    EndsVisibly verification.cert.toList

variable {line : List Char} {verification : Verification}

theorem description_withDescription (text : String) (verification : Verification) :
    (verification.withDescription text).description = stripped? text := by
  rw [withDescription]

theorem isWord_of_nextWord {text word rest : List Char} (next : nextWord text = (word, rest))
    (filled : word ≠ []) (begins : BeginsVisibly text) (whole : '\n' ∉ text) : IsWord word :=
  ⟨filled, begins.front (isPrefix_nextWord next), space_not_mem_nextWord next,
    fun member => whole ((isPrefix_nextWord next).mem member)⟩

/-- What a line that is read consists of. -/
theorem ofLine_eq_ok (read : ofLine line = .ok verification) :
    ∃ date key cert rest afterDate afterKey,
      nextWord (trim line) = (date, afterDate) ∧ nextWord afterDate = (key, afterKey) ∧
      nextWord afterKey = (cert, rest) ∧ key ≠ [] ∧ cert ≠ [] ∧
      Timestamp.parse (String.ofList date) = .ok verification.time ∧
      verification.key = String.ofList key ∧ verification.cert = String.ofList cert ∧
      (verification.mode ≠ none ∧
          verification.description = stripped? (String.ofList (nextWord rest).2) ∨
        verification.mode = none ∧ announcedMode? (nextWord rest).1 = none ∧
          verification.description = stripped? (String.ofList rest)) := by
  obtain ⟨date, afterDate, first⟩ : ∃ date rest, nextWord (trim line) = (date, rest) :=
    ⟨_, _, rfl⟩
  obtain ⟨key, afterKey, second⟩ : ∃ key rest, nextWord afterDate = (key, rest) := ⟨_, _, rfl⟩
  obtain ⟨cert, rest, third⟩ : ∃ cert rest, nextWord afterKey = (cert, rest) := ⟨_, _, rfl⟩
  rw [ofLine_eq first second third] at read
  split at read
  · cases read
  · next filled =>
      simp only [Bool.or_eq_true, List.isEmpty_iff, not_or] at filled
      refine ⟨date, key, cert, rest, afterDate, afterKey, first, second, third, filled.1.2,
        filled.2, ?_⟩
      cases parsed : Timestamp.parse (String.ofList date) with
      | error failure =>
          rw [parsed] at read
          cases read
      | ok time =>
          rw [parsed] at read
          dsimp only [Except.bind] at read
          split at read
          · next word announced =>
              cases found : (Keyword.parse word : Except Failure SignatureMode) with
              | error failure =>
                  rw [found] at read
                  cases read
              | ok mode =>
                  rw [found] at read
                  obtain rfl := Except.ok.inj read
                  exact ⟨rfl, rfl, rfl,
                    .inl ⟨Option.some_ne_none mode, description_withDescription _ _⟩⟩
          · next announced =>
              obtain rfl := Except.ok.inj read
              exact ⟨rfl, rfl, rfl, .inr ⟨rfl, announced, description_withDescription _ _⟩⟩

theorem isRegular_of_read (read : ofLine line = .ok verification) :
    verification.time.IsRegular := by
  obtain ⟨date, _, _, _, _, _, -, -, -, -, -, parsed, -⟩ := ofLine_eq_ok read
  exact Timestamp.isRegular_of_parse parsed

/-- What was read from a line can be relayed. -/
theorem relayable_of_read (read : ofLine line = .ok verification) (whole : '\n' ∉ line) :
    verification.Relayable := by
  obtain ⟨date, key, cert, rest, afterDate, afterKey, first, second, third, keyFilled,
    certFilled, -, keyRead, certRead, remainder⟩ := ofLine_eq_ok read
  have endsKey := (endsVisibly_trim line).back (isSuffix_nextWord first)
  have endsCert := endsKey.back (isSuffix_nextWord second)
  have endsRest := endsCert.back (isSuffix_nextWord third)
  have wholeKey : '\n' ∉ afterDate := fun member =>
    whole (mem_of_mem_trim ((isSuffix_nextWord first).mem member))
  have wholeCert : '\n' ∉ afterKey := fun member =>
    wholeKey ((isSuffix_nextWord second).mem member)
  have wholeRest : '\n' ∉ rest := fun member =>
    wholeCert ((isSuffix_nextWord third).mem member)
  have trimRest : trim rest = rest := trim_eq_self (beginsVisibly_rest third) endsRest
  refine ⟨?key, ?cert, ?description, ?unannounced, ?certEnds⟩
  case key =>
      rw [keyRead, String.toList_ofList]
      exact isWord_of_nextWord second keyFilled (beginsVisibly_rest first) wholeKey
  case cert =>
      rw [certRead, String.toList_ofList]
      exact isWord_of_nextWord third certFilled (beginsVisibly_rest second) wholeCert
  case description =>
      intro text found
      rcases remainder with ⟨-, description⟩ | ⟨-, -, description⟩
      · apply isFreeText_of_stripped (description.symm.trans found)
        rw [String.toList_ofList]
        exact fun member => wholeRest ((isSuffix_nextWord rfl).mem member)
      · apply isFreeText_of_stripped (description.symm.trans found)
        rwa [String.toList_ofList]
  case unannounced =>
      intro none text found
      rcases remainder with ⟨moded, -⟩ | ⟨-, unannounced, description⟩
      · exact absurd none moded
      · obtain ⟨trimmed, -⟩ := stripped?_eq_some (description.symm.trans found)
        rwa [trimmed, String.toList_ofList, trimRest]
  case certEnds =>
      intro none bare
      rcases remainder with ⟨moded, -⟩ | ⟨-, -, description⟩
      · exact absurd none moded
      · have blank := stripped?_eq_none (description.symm.trans bare)
        rw [String.toList_ofList, trimRest] at blank
        rw [certRead, String.toList_ofList, nextWord_eq_self third endsCert blank]
        exact endsCert

namespace Relayable

variable (relayable : verification.Relayable)
include relayable

theorem wellSpaced : verification.WellSpaced where
  key := relayable.key
  cert := relayable.cert
  description text found := (relayable.description text found).trimmed
  cert_ends := relayable.cert_ends

theorem lineFeed_not_mem_remainder : '\n' ∉ verification.remainder := by
  rcases relayable.wellSpaced.remainder_cases with ⟨-, -, bare⟩ | ⟨text, -, description, plain, -⟩ |
    ⟨mode, -, -, alone⟩ | ⟨mode, text, -, description, both, -⟩
  · rw [bare]
    exact nofun
  · rw [plain]
    exact (relayable.description text description).whole
  · rw [alone]
    exact (isWord_mode mode).whole
  · rw [both]
    intro member
    rcases List.mem_append.1 member with inMode | inText
    · exact (isWord_mode mode).whole inMode
    · exact List.not_mem_cons_of_ne_of_not_mem (by decide)
        (relayable.description text description).whole inText

theorem lineFeed_not_mem_written : '\n' ∉ verification.written := by
  rw [relayable.wellSpaced.written_eq]
  have time : '\n' ∉ verification.time.written :=
    verification.time.not_mem_written (by decide)
  have key := relayable.key.whole
  have cert := relayable.cert.whole
  have remainder := relayable.lineFeed_not_mem_remainder
  split <;> simp [time, key, cert, remainder]

theorem ofLine_written : ofLine verification.written = .ok verification.shown :=
  relayable.wellSpaced.ofLine_written relayable.unannounced

end Relayable

theorem toList_renderAll (verifications : List Verification) :
    (renderAll verifications).toList =
      (verifications.map written).flatMap (· ++ ['\n']) := by
  rw [renderAll, String.toList_join, List.flatMap_map, List.flatMap_map]
  simp [render]

theorem relayable_of_parseAll {text : String} {verifications : List Verification}
    (accepted : parseAll text = .ok verifications) :
    ∀ verification ∈ verifications,
      verification.Relayable ∧ verification.time.IsRegular := by
  have read := mapM_eq_ok_iff.1 accepted
  intro verification member
  obtain ⟨line, inside, reads⟩ := exists_of_forall₂ read.flip member
  exact ⟨relayable_of_read reads (lineFeed_not_mem_filledLine inside), isRegular_of_read reads⟩

/-- Lines that can be read again are read as the records that they were written from. -/
theorem parseAll_renderAll {verifications : List Verification}
    (relayable : ∀ verification ∈ verifications, verification.Relayable) :
    parseAll (renderAll verifications) = .ok (verifications.map shown) := by
  have lines : filledLines (renderAll verifications).toList =
      verifications.map written := by
    rw [toList_renderAll]
    apply filledLines_joined <;> rw [List.forall_mem_map] <;> intro verification member
    · exact (relayable verification member).lineFeed_not_mem_written
    · exact (relayable verification member).wellSpaced.beginsVisibly_written
    · exact (relayable verification member).wellSpaced.endsVisibly_written
    · exact (relayable verification member).wellSpaced.written_ne_nil
  rw [parseAll, lines, mapM_eq_ok_iff, List.forall₂_map_left_iff, List.forall₂_map_right_iff,
    List.forall₂_same]
  exact fun verification member => (relayable verification member).ofLine_written

end Verification

/-- Records that were read from any text can be written and read again: they come back in
the same number and order, with the same fingerprints, mode and free text, and with the same
times but for fractions of a second.  From then on the text stays the same. -/
theorem relayed_records_survive {text : String} {verifications : List Verification}
    (accepted : Verification.parseAll text = .ok verifications) :
    ∃ again, Verification.parseAll (Verification.renderAll verifications) = .ok again ∧
      again = (verifications.map fun verification =>
        { verification with time := verification.time.truncate }) ∧
      Verification.renderAll again = Verification.renderAll verifications := by
  have relayable := Verification.relayable_of_parseAll accepted
  have kept : verifications.map Verification.shown = verifications.map fun verification =>
      { verification with time := verification.time.truncate } :=
    List.map_congr_left fun verification member =>
      Verification.shown_of_isRegular (relayable verification member).2
  refine ⟨_, Verification.parseAll_renderAll fun verification member =>
    (relayable verification member).1, kept, ?_⟩
  rw [← String.toList_inj, Verification.toList_renderAll, Verification.toList_renderAll,
    List.map_map]
  congr 2
  funext verification
  exact verification.written_shown

/-- A leap second, a blank at the end of a word, free text that would announce a mode, and an
offset with a fraction are relayed. -/
theorem relayed_records_lose_fractions :
    let text := "\n+12345-01-02T03:04:60Z KEY\tA  CERT\u00a0 mode:text   mode:binary x\t \r\n" ++
      " \t\n2020-02-29T23:59:59.75+01:00 K C mode\r\n"
    let first : Verification := ⟨⟨327403479899, 1000000000, by decide, by decide,
      by decide⟩, "KEY\tA", "CERT\u00a0", some .text, some "mode:binary x"⟩
    let second : Verification := ⟨⟨1583017199, 750000000, by decide, by decide,
      by decide⟩, "K", "C", none, some "mode"⟩
    Verification.parseAll text = .ok [first, second] ∧
      Verification.renderAll [first, second] =
        "+12345-01-02T03:04:60Z KEY\tA CERT\u00a0 mode:text mode:binary x\n" ++
          "2020-02-29T22:59:59Z K C mode\n" ∧
      ∃ again, Verification.parseAll (Verification.renderAll [first, second]) = .ok again ∧
        again = ([first, second].map fun verification =>
          { verification with time := verification.time.truncate }) ∧
        Verification.renderAll again = Verification.renderAll [first, second] := by
  intro text first second
  have accepted : Verification.parseAll text = .ok [first, second] := by decide +kernel
  exact ⟨accepted, by decide +kernel, relayed_records_survive accepted⟩

end StatelessPgp
