import StatelessPgp.Inquiry
import StatelessPgp.Proofs.Verification.Line
import StatelessPgp.Proofs.Verification.Ways

/-!
# Malformed answers

A backend that succeeds may still leave an answer that cannot be read.  This is bad data, whether
the answer is no text or does not have its form.  There is one exception: a record whose mode is
unknown is refused like an unknown word of an option.
-/

namespace StatelessPgp

variable {α β : Type}

/-- All that can be wrong is that data is bad. -/
def FailsAsBadData (result : Except Failure α) : Prop :=
  ∀ failure, result = .error failure → failure.kind = .badData

namespace FailsAsBadData

theorem ok (value : α) : FailsAsBadData (.ok value) :=
  nofun

theorem error {failure : Failure} (bad : failure.kind = .badData) :
    FailsAsBadData (.error failure : Except Failure α) := by
  rintro _ ⟨⟩
  exact bad

theorem map {result : Except Failure α} (bad : FailsAsBadData result) (change : α → β) :
    FailsAsBadData (result.map change) := by
  cases result with
  | error failure => exact error (bad failure rfl)
  | ok value => exact ok (change value)

theorem bind {result : Except Failure α} {next : α → Except Failure β}
    (bad : FailsAsBadData result) (later : ∀ value, FailsAsBadData (next value)) :
    FailsAsBadData (result.bind next) := by
  cases result with
  | error failure => exact error (bad failure rfl)
  | ok value => exact later value

theorem mapM {compute : α → Except Failure β} {items : List α}
    (bad : ∀ item ∈ items, FailsAsBadData (compute item)) :
    FailsAsBadData (items.mapM compute) := by
  intro failure failed
  obtain ⟨earlier, item, later, rfl, -, fails⟩ := FirstFails.mapM_eq_error_iff.1 failed
  exact bad item (by simp) failure fails

theorem exists_failure {result : Except Failure α} (bad : FailsAsBadData result)
    (fails : result.toOption = none) :
    ∃ failure, result = .error failure ∧ failure.kind = .badData := by
  cases result with
  | error failure => exact ⟨failure, rfl, bad failure rfl⟩
  | ok value => cases fails

end FailsAsBadData

theorem Timestamp.parse_failsAsBadData (text : String) : FailsAsBadData (parse text) := by
  rw [parse]
  split
  · exact .ok _
  · split
    · exact .ok _
    · exact .error rfl

theorem SessionKey.parse_failsAsBadData (text : String) : FailsAsBadData (parse text) := by
  rw [parse]
  split
  · exact .ok _
  · exact .error rfl

theorem Channel.textOf_failsAsBadData (channel : Channel) (found : Option Bytes) :
    FailsAsBadData (channel.textOf found) := by
  fun_cases textOf channel found with
  | case1 => exact .ok _
  | case2 => exact .ok _
  | case3 => exact .error rfl

namespace Profile

theorem new_failsAsBadData (name : String) (description : Option String) (aliases : List String) :
    FailsAsBadData (new name description aliases) := by
  rw [new]
  dsimp only
  repeat' split
  all_goals first | exact .ok _ | exact .error rfl

theorem ofLine_failsAsBadData (line : List Char) : FailsAsBadData (ofLine line) := by
  rw [ofLine]
  dsimp only
  split
  · exact new_failsAsBadData _ _ _
  · split <;> exact new_failsAsBadData _ _ _

theorem parseAll_failsAsBadData (text : String) : FailsAsBadData (parseAll text) :=
  .mapM fun line _ => ofLine_failsAsBadData line

end Profile

/-- A word is looked up among those of a list, and refused if it is none of them. -/
theorem Keyword.parse_cases [Keyword α] (text : String) :
    (∃ value : α, word value = text ∧ parse text = .ok value) ∨
      (∀ value ∈ (values : List α), word value ≠ text) ∧
        (parse text : Except Failure α) = .error (.new .unsupportedOption
          ("Unsupported value '" ++ text ++ "' for " ++ label α ++ ", expected one of: " ++
            String.intercalate ", " (words α))) := by
  rw [parse]
  cases found : (ofWord? text : Option α) with
  | some value =>
      have same := List.find?_some found
      exact .inl ⟨value, by simpa using same, rfl⟩
  | none =>
      refine .inr ⟨fun value member => ?_, rfl⟩
      simpa using List.find?_eq_none.1 found value member

namespace Verification

open Text

/-- A record announces a mode that there is not. -/
def unknownMode (word : String) : Failure :=
  .new .unsupportedOption
    ("Unsupported value '" ++ word ++ "' for SignatureMode, expected one of: binary, text")

/-- A line has its three words, and the first of them is a time, but the mode that it announces is
no mode. -/
inductive HasUnknownMode (line : List Char) (word : String) : Prop where
  | intro {date afterDate key afterKey cert rest : List Char} {time : Timestamp}
      (first : nextWord (trim line) = (date, afterDate))
      (second : nextWord afterDate = (key, afterKey)) (third : nextWord afterKey = (cert, rest))
      (dated : date ≠ []) (keyed : key ≠ []) (certified : cert ≠ [])
      (timed : Timestamp.parse (String.ofList date) = .ok time)
      (announced : announcedMode? (nextWord rest).1 = some word)
      (unknown : ∀ mode : SignatureMode, Keyword.word mode ≠ word)

theorem parse_mode_cases (word : String) :
    (∃ mode : SignatureMode, Keyword.word mode = word ∧ Keyword.parse word = .ok mode) ∨
      (∀ mode : SignatureMode, Keyword.word mode ≠ word) ∧
        (Keyword.parse word : Except Failure SignatureMode) = .error (unknownMode word) := by
  refine (Keyword.parse_cases word).imp_right fun ⟨differs, refused⟩ => ⟨fun mode => ?_, ?_⟩
  · exact differs mode (by cases mode <;> simp [Keyword.values])
  · rw [refused, unknownMode]
    simp only [String.append_assoc]
    rfl

theorem HasUnknownMode.ofLine {line : List Char} {word : String}
    (unknown : HasUnknownMode line word) : ofLine line = .error (unknownMode word) := by
  obtain ⟨first, second, third, dated, keyed, certified, timed, announced, unknown⟩ := unknown
  rw [ofLine_eq first second third, if_neg (by simp [dated, keyed, certified]), timed]
  dsimp only [Except.bind]
  rw [announced]
  rcases parse_mode_cases word with ⟨mode, known, -⟩ | ⟨-, refused⟩
  · exact absurd known (unknown mode)
  · dsimp only
    rw [refused]
    rfl

/-- A line that cannot be read is bad data, unless it has an unknown mode. -/
theorem ofLine_error {line : List Char} {failure : Failure}
    (refused : ofLine line = .error failure) :
    failure.kind = .badData ∨
      ∃ word, HasUnknownMode line word ∧ failure = unknownMode word := by
  obtain ⟨date, afterDate, first⟩ : ∃ date afterDate, nextWord (trim line) = (date, afterDate) :=
    ⟨_, _, rfl⟩
  obtain ⟨key, afterKey, second⟩ : ∃ key afterKey, nextWord afterDate = (key, afterKey) :=
    ⟨_, _, rfl⟩
  obtain ⟨cert, rest, third⟩ : ∃ cert rest, nextWord afterKey = (cert, rest) := ⟨_, _, rfl⟩
  rw [ofLine_eq first second third] at refused
  split at refused
  · cases refused
    exact .inl rfl
  · next filled =>
      simp only [Bool.or_eq_true, not_or, List.isEmpty_iff] at filled
      obtain ⟨⟨dated, keyed⟩, certified⟩ := filled
      cases timed : Timestamp.parse (String.ofList date) with
      | error untimed =>
          rw [timed] at refused
          cases refused
          exact .inl (Timestamp.parse_failsAsBadData _ _ timed)
      | ok time =>
          rw [timed] at refused
          dsimp only [Except.bind] at refused
          cases announced : announcedMode? (nextWord rest).1 with
          | none =>
              rw [announced] at refused
              cases refused
          | some word =>
              rw [announced] at refused
              dsimp only at refused
              rcases parse_mode_cases word with ⟨mode, -, known⟩ | ⟨unknown, mistaken⟩
              · rw [known] at refused
                cases refused
              · rw [mistaken] at refused
                cases refused
                exact .inr ⟨word, .intro first second third dated keyed certified timed announced
                  unknown, rfl⟩

/-- The first line that cannot be read has an unknown mode. -/
inductive Misleads (text : List Char) (word : String) : Prop where
  | intro {earlier later : List (List Char)} {line : List Char}
      (split : filledLines text = earlier ++ line :: later)
      (passes : ∀ other ∈ earlier, ∃ verification, ofLine other = .ok verification)
      (unknown : HasUnknownMode line word)

theorem Misleads.parseAll {text word : String} (misleads : Misleads text.toList word) :
    parseAll text = .error (unknownMode word) := by
  obtain ⟨split, passes, unknown⟩ := misleads
  exact FirstFails.mapM_eq_error_iff.2 (.intro _ _ _ split passes unknown.ofLine)

theorem parseAll_error {text : String} {failure : Failure}
    (refused : parseAll text = .error failure) :
    failure.kind = .badData ∨
      ∃ word, Misleads text.toList word ∧ failure = unknownMode word := by
  obtain ⟨earlier, line, later, split, passes, fails⟩ := FirstFails.mapM_eq_error_iff.1 refused
  rcases ofLine_error fails with bad | ⟨word, unknown, rfl⟩
  · exact .inl bad
  · exact .inr ⟨word, .intro split passes unknown, rfl⟩

end Verification

/-- Data is a report of which the first record that cannot be read has an unknown mode. -/
def IsMisleading (data : Bytes) (word : String) : Prop :=
  ∃ text, Text.decode data = .ok text ∧ Verification.Misleads text.toList word

/-- If a report cannot be read, it is called bad data, unless it is misleading. -/
structure Judges (data : Bytes) (result : Except Failure (List Verification)) : Prop where
  misled : ∀ word, IsMisleading data word → result = .error (Verification.unknownMode word)
  otherwise : (∀ word, ¬ IsMisleading data word) → FailsAsBadData result

open Operation

theorem judges_readReport (data : Bytes) (message : String) :
    Judges data (readReport message data) := by
  constructor
  · rintro word ⟨text, decoded, misleads⟩
    rw [readReport, decoded]
    exact misleads.parseAll
  · intro plain
    rw [readReport]
    cases decoded : Text.decode data with
    | error error => exact .error rfl
    | ok text =>
        intro failure refused
        rcases Verification.parseAll_error refused with bad | ⟨word, misleads, -⟩
        · exact bad
        · exact absurd ⟨text, decoded, misleads⟩ (plain word)

/-- What a successful backend leaves on its standard output and in its side channels is bad data
if it cannot be read: reports of signatures, session keys, digest names and lists of profiles.  Only
a report whose first unreadable record has an unknown mode is refused for that mode, in which case
it looks as if the caller had used an unknown word. -/
theorem malformed_answers_are_bad_data (data : Bytes) (directory : Location) (channels : Channels)
    (files : FileTree) :
    Judges data (verificationsOf data) ∧
    (∀ after, channels.consume directory .verifications files = (.ok (some data), after) →
      Judges data ((readVerifications directory).run (channels, files) : _ × _).1) ∧
    (∀ after, channels.consume directory .sessionKey files = (.ok (some data), after) →
      FailsAsBadData ((readSessionKey directory).run (channels, files) : _ × _).1) ∧
    (∀ after output, channels.consume directory .micAlg files = (.ok (some data), after) →
      FailsAsBadData ((Operation.sign.finish output directory).run (channels, files) : _ × _).1) ∧
    ∀ subcommand host config world completed,
      ((inquiry config "list-profiles" [subcommand]).execute host config none world).result =
          .ok completed →
        FailsAsBadData (Profile.list subcommand host config world).result := by
  refine ⟨?outputs, ?reports, ?keys, ?digests, ?profiles⟩
  case outputs =>
      rw [verificationsOf_eq]
      exact judges_readReport data _
  case reports =>
      intro after consumed
      rw [readVerifications_of_data consumed]
      exact judges_readReport data _
  case keys =>
      intro after consumed
      rw [run_readSessionKey consumed]
      dsimp only
      refine (Channel.textOf_failsAsBadData _ _).bind fun text => ?_
      cases text with
      | none => exact .ok none
      | some text => exact (SessionKey.parse_failsAsBadData text).map some
  case digests =>
      intro after output consumed
      rw [run_finish_sign output consumed]
      exact (Channel.micAlg.textOf_failsAsBadData (some data)).map _
  case profiles =>
      intro subcommand host config world completed succeeded
      rw [Profile.list, Run.andThen, inquire]
      dsimp only
      rw [succeeded]
      dsimp only [Except.map, Except.bind]
      exact Profile.parseAll_failsAsBadData _

theorem unknown_mode_is_not_bad_data :
    let report := "2020-02-29T23:59:59Z K C mode:x"
    let file (channel : Channel) := Path.ofText ("/scratch/" ++ channel.fileName)
    let place (channel : Channel) := [Path.ofText "scratch", Path.ofText channel.fileName]
    let channels : Channels := ⟨.system, some (Path.ofText "/scratch"),
      [.sessionKey, .verifications, .micAlg].map fun channel => (channel, file channel)⟩
    let files : FileTree := ⟨[([Path.ofText "scratch"], .directory),
      ([Path.ofText "sop"], .program []), (place .sessionKey, .file [120]),
      (place .verifications, .file (Text.encode report)), (place .micAlg, .file [255])]⟩
    let host := { Host.bare .empty [] with
      backend := fun _ files => ⟨Text.encode "no: 1\nbad line", [], files, some (.status 0)⟩ }
    let refused := Verification.unknownMode "x"
    verificationsOf (Text.encode report) = .error refused ∧ refused.kind = .unsupportedOption ∧
      ((readVerifications []).run (channels, files) : _ × _).1 = .error refused ∧
      (∃ failure, ((readSessionKey []).run (channels, files) : _ × _).1 = .error failure ∧
        failure.kind = .badData) ∧
      (∃ failure, ((Operation.sign.finish [] []).run (channels, files) : _ × _).1 = .error failure ∧
        failure.kind = .badData) ∧
      ∃ failure, (Profile.list "encrypt" host (.new (Path.ofText "/sop")) ⟨files, []⟩).result =
        .error failure ∧ failure.kind = .badData := by
  intro report file place channels files host refused
  have misleading : IsMisleading (Text.encode report) "x" := by
    have first : Text.nextWord (Text.trim report.toList) =
        ("2020-02-29T23:59:59Z".toList, "K C mode:x".toList) := by decide +kernel
    have second : Text.nextWord "K C mode:x".toList = ("K".toList, "C mode:x".toList) := by
      decide +kernel
    have third : Text.nextWord "C mode:x".toList = ("C".toList, "mode:x".toList) := by
      decide +kernel
    have timed : Timestamp.parse (String.ofList "2020-02-29T23:59:59Z".toList) =
        .ok ⟨1583020799, 0, by decide, by decide, by decide⟩ := by decide +kernel
    have announced : Verification.announcedMode? (Text.nextWord "mode:x".toList).1 = some "x" := by
      decide +kernel
    have unknown : Verification.HasUnknownMode report.toList "x" :=
      .intro first second third (by decide) (by decide) (by decide) timed announced
        fun mode => by cases mode <;> decide
    have alone : Text.filledLines report.toList = [] ++ report.toList :: [] := by decide +kernel
    exact ⟨report, Text.decode_encode report, .intro alone nofun unknown⟩
  obtain ⟨outputs, reports, -, -, profiles⟩ :=
    malformed_answers_are_bad_data (Text.encode report) [] channels files
  obtain ⟨-, -, keys, -⟩ := malformed_answers_are_bad_data [120] [] channels files
  obtain ⟨-, -, -, digests, -⟩ := malformed_answers_are_bad_data [255] [] channels files
  have reported : (channels.consume [] .verifications files).1 =
      .ok (some (Text.encode report)) := by decide +kernel
  have keyed : (channels.consume [] .sessionKey files).1 = .ok (some [120]) := by decide +kernel
  have digested : (channels.consume [] .micAlg files).1 = .ok (some [255]) := by decide +kernel
  have listed : ((inquiry (.new (Path.ofText "/sop")) "list-profiles" ["encrypt"]).execute host
      (.new (Path.ofText "/sop")) none ⟨files, []⟩).result = .ok ⟨.status 0, "", 14⟩ := by
    decide +kernel
  refine ⟨outputs.misled "x" misleading, rfl, ?_, ?_, ?_, ?_⟩
  · exact (reports _ (Prod.ext reported rfl)).misled "x" misleading
  · exact (keys _ (Prod.ext keyed rfl)).exists_failure (by decide +kernel)
  · exact (digests _ [] (Prod.ext digested rfl)).exists_failure (by decide +kernel)
  · exact (profiles _ _ _ _ _ listed).exists_failure (by decide +kernel)

end StatelessPgp
