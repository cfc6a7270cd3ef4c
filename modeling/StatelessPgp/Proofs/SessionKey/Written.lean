import Mathlib.Tactic.IntervalCases
import StatelessPgp.Proofs.Text.Cuts
import StatelessPgp.Proofs.Text.Digits
import StatelessPgp.Proofs.Text.Encoding
import StatelessPgp.Proofs.Text.Hex
import StatelessPgp.Proofs.Text.Words
import StatelessPgp.SessionKey

/-!
# Reading a written session key

The text form of a key consists of digits and one colon.  Whatever text a key was read
from, its text form is read as the same key, also as a line of its own.
-/

namespace StatelessPgp

namespace Text

section

variable {value : Nat} (small : value < 16)
include small

theorem hexValue?_hexDigit : hexValue? (hexDigit value) = some value := by
  interval_cases value <;> rfl

theorem isBlank_hexDigit : isBlank (hexDigit value) = false := by
  interval_cases value <;> rfl

theorem hexDigit_ne_nul : hexDigit value ≠ '\x00' := by
  interval_cases value <;> decide

end

theorem ofNat_halves (byte : UInt8) : byte.toNat / 16 < 16 ∧ byte.toNat % 16 < 16 ∧
    UInt8.ofNat (byte.toNat / 16 * 16 + byte.toNat % 16) = byte := by
  have bounded : byte.toNat < 256 := byte.toNat_lt
  have whole : byte.toNat / 16 * 16 + byte.toNat % 16 = byte.toNat := by omega
  refine ⟨by omega, by omega, ?_⟩
  rw [whole, UInt8.ofNat_toNat]

theorem unhex?_hex (bytes : Bytes) : unhex? (hex bytes) = some bytes := by
  induction bytes with
  | nil => rfl
  | cons byte rest hypothesis =>
      obtain ⟨high, low, whole⟩ := ofNat_halves byte
      have pair : hex (byte :: rest) =
          hexDigit (byte.toNat / 16) :: hexDigit (byte.toNat % 16) :: hex rest := rfl
      rw [pair, unhex?, hexValue?_hexDigit high, hexValue?_hexDigit low, hypothesis]
      dsimp only
      rw [whole]

theorem exists_hexDigit {bytes : Bytes} {character : Char} (member : character ∈ hex bytes) :
    ∃ value < 16, character = hexDigit value := by
  obtain ⟨byte, -, digit⟩ := List.mem_flatMap.1 member
  obtain ⟨high, low, -⟩ := ofNat_halves byte
  rcases List.mem_pair.1 digit with rfl | rfl
  · exact ⟨_, high, rfl⟩
  · exact ⟨_, low, rfl⟩

end Text

namespace SessionKey

open Text

theorem algorithm?_digits (algorithm : UInt8) :
    algorithm? (digits algorithm.toNat) = some algorithm := by
  have bounded : algorithm.toNat < 256 := algorithm.toNat_lt
  have filled := digits_ne_nil algorithm.toNat
  have short : (digits algorithm.toNat).length ≤ 3 :=
    (Nat.length_toDigits_le_iff (by decide) (by decide)).2 (by omega)
  have allDigits : (digits algorithm.toNat).all isDigit = true :=
    List.all_eq_true.2 fun _ => isDigit_of_mem_digits
  rw [algorithm?, if_neg (by simp [filled, short, allDigits]), numberOfDigits_digits,
    if_neg (by omega), UInt8.ofNat_toNat]

theorem key?_hex {key : Bytes} (filled : key ≠ []) : key? (hex key) = some key := by
  have written : hex key ≠ [] := by
    intro nothing
    have read := unhex?_hex key
    rw [nothing] at read
    exact filled (Option.some.inj read).symm
  rw [key?, if_neg (by simpa using written), unhex?_hex]

variable {sessionKey : SessionKey}

theorem isBlank_of_mem_written {character : Char} (member : character ∈ sessionKey.written) :
    isBlank character = false ∧ character ≠ '\x00' := by
  rw [written, List.mem_append, List.mem_cons] at member
  rcases member with digit | rfl | digit
  · have isDigit := isDigit_of_mem_digits digit
    refine ⟨isBlank_of_isDigit isDigit, ?_⟩
    rintro rfl
    cases isDigit
  · decide
  · obtain ⟨value, small, rfl⟩ := exists_hexDigit digit
    exact ⟨isBlank_hexDigit small, hexDigit_ne_nul small⟩

theorem lineFeed_not_mem_written : '\n' ∉ sessionKey.written := fun member => by
  cases (isBlank_of_mem_written member).1

theorem cutFirst_written (sessionKey : SessionKey) :
    cutFirst [':'] sessionKey.written =
      some (digits sessionKey.algorithm.toNat, hex sessionKey.key) := by
  rw [cutFirst_eq_some_iff]
  refine ⟨rfl, firstAfter_of_not_mem ?_ _ _⟩
  intro member
  cases isDigit_of_mem_digits member

theorem beginsVisibly_written : BeginsVisibly sessionKey.written := fun _ first =>
  (isBlank_of_mem_written (List.mem_of_mem_head? first)).1

theorem endsVisibly_written : EndsVisibly sessionKey.written := fun _ last =>
  (isBlank_of_mem_written (List.mem_of_mem_getLast? last)).1

theorem filter_written : sessionKey.written.filter (· != '\n') = sessionKey.written := by
  rw [List.filter_eq_self]
  intro character member
  rw [bne_iff_ne]
  rintro rfl
  exact lineFeed_not_mem_written member

theorem cleaned_written (sessionKey : SessionKey) :
    cleaned sessionKey.written = sessionKey.written := by
  rw [cleaned, trim_eq_self beginsVisibly_written endsVisibly_written, filter_written]

/-- A line feed after the text form is trimmed away, and there is none in it. -/
theorem cleaned_line (sessionKey : SessionKey) :
    cleaned (sessionKey.written ++ ['\n']) = sessionKey.written := by
  have filled : sessionKey.written ≠ [] := by simp [written]
  rw [cleaned, trim_append_blank beginsVisibly_written endsVisibly_written filled (by decide),
    filter_written]

theorem parse_of_cleaned {text : String} (filled : sessionKey.key ≠ [])
    (same : cleaned text.toList = sessionKey.written) : parse text = .ok sessionKey := by
  rw [parse, ofText?, same, cutFirst_written]
  simp [algorithm?_digits, key?_hex filled]

theorem parse_render (filled : sessionKey.key ≠ []) : parse sessionKey.render = .ok sessionKey := by
  apply parse_of_cleaned filled
  rw [render, String.toList_ofList, cleaned_written]

theorem parse_line (filled : sessionKey.key ≠ []) :
    parse (sessionKey.render ++ "\n") = .ok sessionKey := by
  apply parse_of_cleaned filled
  rw [String.toList_append, render, String.toList_ofList]
  exact cleaned_line sessionKey

/-- A key that was read has at least one byte. -/
theorem key_ne_nil_of_parse {text : String} (parsed : parse text = .ok sessionKey) :
    sessionKey.key ≠ [] := by
  rw [parse] at parsed
  split at parsed
  · next read =>
      cases parsed
      rw [ofText?] at read
      obtain ⟨⟨algorithm, run⟩, -, read⟩ := Option.bind_eq_some_iff.1 read
      obtain ⟨number, -, read⟩ := Option.bind_eq_some_iff.1 read
      obtain ⟨key, found, same⟩ := Option.bind_eq_some_iff.1 read
      cases same
      rw [key?] at found
      split at found
      · cases found
      · next filled =>
          rintro rfl
          rw [(unhex?_eq_some_iff.1 found).eq_nil_iff.2 rfl] at filled
          exact filled rfl
  · cases parsed

/-- What a key is written as can be carried by the environment. -/
theorem zero_not_mem_encode_render (sessionKey : SessionKey) :
    (0 : UInt8) ∉ Text.encode sessionKey.render := by
  apply not_mem_encode (by decide)
  rw [render, String.toList_ofList]
  exact fun member => (isBlank_of_mem_written member).2 rfl

end SessionKey

end StatelessPgp
