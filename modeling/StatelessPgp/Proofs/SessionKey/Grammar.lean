import StatelessPgp.Proofs.SessionKey.Offsets
import StatelessPgp.Proofs.SessionKey.Written

/-!
# The text form of a session key

A text is that of a key if it consists of a short decimal number, a colon and pairs of hexadecimal
digits once it is trimmed and its line feeds are gone.  Just these texts are read, and what they
are read as is written with the fewest decimal digits and in upper case.
-/

namespace StatelessPgp

namespace SessionKey

open Text

/-- A text spells a key: without the blank characters around it and the line feeds in it, it is a
number of up to three digits and a run of hexadecimal digits, with a colon between them. -/
structure Spelling (text : List Char) (sessionKey : SessionKey) (number run : List Char) :
    Prop where
  whole : (trim text).filter (· != '\n') = number ++ ':' :: run
  numbered : number ≠ []
  short : number.length ≤ 3
  algorithm : SpellsNumber number sessionKey.algorithm.toNat
  filled : run ≠ []
  key : SpellsBytes run sessionKey.key

variable {text number run : List Char} {sessionKey : SessionKey} {algorithm : UInt8} {key : Bytes}

theorem algorithm?_eq_some_iff : algorithm? number = some algorithm ↔
    number ≠ [] ∧ number.length ≤ 3 ∧ SpellsNumber number algorithm.toNat := by
  rw [spellsNumber_iff, algorithm?]
  constructor
  · intro read
    split at read
    · cases read
    · next admitted =>
        simp only [Bool.or_eq_true, not_or, Bool.not_eq_true', List.isEmpty_iff,
          decide_eq_true_eq, Bool.not_eq_false, List.all_eq_true] at admitted
        obtain ⟨⟨numbered, short⟩, digits⟩ := admitted
        split at read
        · cases read
        · next fits =>
            have value : (UInt8.ofNat (numberOfDigits number)).toNat = numberOfDigits number :=
              UInt8.toNat_ofNat_of_lt' (by change numberOfDigits number < 256; omega)
            cases read
            exact ⟨numbered, by omega, digits, value.symm⟩
  · rintro ⟨numbered, short, digits, value⟩
    have bounded : algorithm.toNat < 256 := algorithm.toNat_lt
    have all : number.all isDigit = true := List.all_eq_true.2 digits
    rw [if_neg (by simp [numbered, short, all]), value, if_neg (by omega), UInt8.ofNat_toNat]

theorem key?_eq_some_iff : key? run = some key ↔ run ≠ [] ∧ SpellsBytes run key := by
  rw [key?, ← unhex?_eq_some_iff]
  by_cases filled : run = [] <;> simp [filled]

theorem ofText?_eq_some_iff :
    ofText? text = some sessionKey ↔ ∃ number run, Spelling text sessionKey number run := by
  constructor
  · intro read
    rw [ofText?] at read
    obtain ⟨⟨number, run⟩, cut, read⟩ := Option.bind_eq_some_iff.1 read
    obtain ⟨algorithm, numberRead, read⟩ := Option.bind_eq_some_iff.1 read
    obtain ⟨key, keyRead, same⟩ := Option.bind_eq_some_iff.1 read
    cases same
    obtain ⟨numbered, short, spelled⟩ := algorithm?_eq_some_iff.1 numberRead
    obtain ⟨filled, bytes⟩ := key?_eq_some_iff.1 keyRead
    exact ⟨number, run, (cutFirst_eq_some_iff.1 cut).1, numbered, short, spelled, filled, bytes⟩
  · rintro ⟨number, run, spelling⟩
    have unbroken : ':' ∉ number := fun member => by
      cases spelling.algorithm.isDigit_of_mem member
    have cut : cutFirst [':'] (cleaned text) = some (number, run) :=
      cutFirst_eq_some_iff.2 ⟨spelling.whole, firstAfter_of_not_mem unbroken _ _⟩
    have numberRead := algorithm?_eq_some_iff.2
      ⟨spelling.numbered, spelling.short, spelling.algorithm⟩
    have keyRead := key?_eq_some_iff.2 ⟨spelling.filled, spelling.key⟩
    exact Option.bind_eq_some_iff.2 ⟨_, cut, Option.bind_eq_some_iff.2 ⟨_, numberRead,
      Option.bind_eq_some_iff.2 ⟨_, keyRead, rfl⟩⟩⟩

theorem parse_eq_ok_iff {text : String} : parse text = .ok sessionKey ↔
    ∃ number run, Spelling text.toList sessionKey number run := by
  rw [← ofText?_eq_some_iff, parse_eq]
  cases ofText? text.toList <;> simp

theorem parse_eq_error_iff {text : String} {failure : Failure} :
    parse text = .error failure ↔ failure = malformed ∧
      ∀ sessionKey number run, ¬ Spelling text.toList sessionKey number run := by
  have unread : ofText? text.toList = none ↔
      ∀ sessionKey number run, ¬ Spelling text.toList sessionKey number run := by
    rw [Option.eq_none_iff_forall_ne_some]
    exact forall_congr' fun sessionKey => by
      rw [ne_eq, ofText?_eq_some_iff, not_exists]
      exact forall_congr' fun number => not_exists
  rw [← unread, parse_eq]
  cases ofText? text.toList <;> simp [eq_comm]

/-- What a text is read as is written in its shortest form and in upper case. -/
theorem Spelling.written_eq (spelling : Spelling text sessionKey number run) :
    sessionKey.written = withoutZeros number ++ ':' :: run.map Char.toUpper := by
  rw [written, spelling.algorithm.digits_eq spelling.numbered, spelling.key.hex_eq]

theorem Spelling.key_ne_nil (spelling : Spelling text sessionKey number run) :
    sessionKey.key ≠ [] :=
  fun nothing => spelling.filled (spelling.key.eq_nil_iff.2 nothing)

/-- Just the texts that spell a key are read, as that key, by characters and by offsets alike; any
other text is bad data.  A key with at least one byte is read back from its text form, and the text
form of what was read has no superfluous zeros and no lower case. -/
theorem session_keys_are_read_as_spelled :
    (∀ (text : String) (sessionKey : SessionKey), parse text = .ok sessionKey ↔
      ∃ number run, Spelling text.toList sessionKey number run) ∧
    (∀ (text : String) (failure : Failure), parse text = .error failure ↔
      failure = .new .badData "Provided session key does not match expected format ALGO:HEX" ∧
        ∀ sessionKey number run, ¬ Spelling text.toList sessionKey number run) ∧
    (∀ text : String, parseAtOffsets? text = some (parse text)) ∧
    (∀ sessionKey : SessionKey, parse sessionKey.render = .ok sessionKey ↔ sessionKey.key ≠ []) ∧
    ∀ (text : String) (sessionKey : SessionKey) (number run : List Char),
      Spelling text.toList sessionKey number run →
        sessionKey.render = String.ofList (withoutZeros number ++ ':' :: run.map Char.toUpper) ∧
          parse sessionKey.render = .ok sessionKey := by
  refine ⟨fun _ _ => parse_eq_ok_iff, fun _ _ => parse_eq_error_iff, parseAtOffsets?_eq,
    fun _ => ⟨key_ne_nil_of_parse, parse_render⟩, ?_⟩
  intro text sessionKey number run spelling
  exact ⟨congrArg String.ofList spelling.written_eq, parse_render spelling.key_ne_nil⟩

/-- Blank characters, a line feed, zeros in front and lower case are all read past. -/
theorem padded_session_key_is_read :
    parse " 009:\nfC\n" = .ok ⟨9, [0xFC]⟩ ∧ render ⟨9, [0xFC]⟩ = "9:FC" := by
  obtain ⟨accepted, -, -, -, canonical⟩ := session_keys_are_read_as_spelled
  have spelling : Spelling " 009:\nfC\n".toList ⟨9, [0xFC]⟩ "009".toList "fC".toList :=
    { whole := by decide
      numbered := by decide
      short := by decide
      algorithm := spellsNumber_iff.2 ⟨List.all_eq_true.1 (by decide), rfl⟩
      filled := by decide
      key := unhex?_eq_some_iff.1 (by decide) }
  exact ⟨(accepted _ _).2 ⟨_, _, spelling⟩, (canonical _ _ _ _ spelling).1⟩

-- A sign is no digit, neither in front of the number nor in a pair.
example : ofText? "+9:AB".toList = none ∧ ofText? "9:+A".toList = none := by decide

end SessionKey
end StatelessPgp
