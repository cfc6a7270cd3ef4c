import Mathlib.Tactic.IntervalCases
import StatelessPgp.Text.Utf8

/-!
# Encoded text is read back

The machine that reads UTF-8 takes the bytes of an encoded character one after the other:
the first announces how many follow and leaves the upper bits, and each of the others adds
six bits.  So it finds in an encoded text just the characters of the text.
-/

namespace StatelessPgp

namespace Text

variable {found : List Stretch} {value bits taken after low high : Nat}

section First

/-- The first of two bytes.  With fewer bits, the character would fit in one. -/
theorem announce_two (least : 2 ≤ value) (most : value < 32) :
    announce (UInt8.ofNat (value + 192)) = .inr ⟨value, 1, 0, 0x80, 0xBF⟩ := by
  interval_cases value <;> rfl

/-- The first of three bytes.  What follows keeps away from shorter characters and from
the surrogates. -/
theorem announce_three (most : value < 16) :
    announce (UInt8.ofNat (value + 224)) =
      .inr ⟨value, 1, 1, if value = 0 then 0xA0 else 0x80,
        if value = 13 then 0x9F else 0xBF⟩ := by
  interval_cases value <;> rfl

/-- The first of four bytes.  What follows keeps away from shorter characters and from
what lies beyond all characters. -/
theorem announce_four (most : value ≤ 4) :
    announce (UInt8.ofNat (value + 240)) =
      .inr ⟨value, 1, 2, if value = 0 then 0x90 else 0x80,
        if value = 4 then 0x8F else 0xBF⟩ := by
  interval_cases value <;> rfl

theorem advance_of_whole (small : value < 128) :
    advance found none (UInt8.ofNat value) =
      (.character (Char.ofNat value) :: found, none) := by
  have number : (UInt8.ofNat value).toNat = value :=
    UInt8.toNat_ofNat_of_lt' (by change value < 256; omega)
  rw [advance, startWith, announce, number, if_pos small]

theorem advance_of_announced {byte : UInt8} {expected : Opening}
    (announced : announce byte = .inr expected) :
    advance found none byte = (found, some expected) := by
  rw [advance, startWith, announced]

end First

section Following

variable (atLeast : low ≤ value + 128) (atMost : value + 128 ≤ high) (small : value < 64)
include atLeast atMost small

theorem advance_within :
    advance found (some ⟨bits, taken, after + 1, low, high⟩) (UInt8.ofNat (value + 128)) =
      (found, some ⟨bits * 64 + value, taken + 1, after, 0x80, 0xBF⟩) := by
  have number : (UInt8.ofNat (value + 128)).toNat = value + 128 :=
    UInt8.toNat_ofNat_of_lt' (by change value + 128 < 256; omega)
  rw [advance]
  dsimp only
  rw [number, if_pos ⟨atLeast, atMost⟩, Nat.add_sub_cancel]

theorem advance_last :
    advance found (some ⟨bits, taken, 0, low, high⟩) (UInt8.ofNat (value + 128)) =
      (.character (Char.ofNat (bits * 64 + value)) :: found, none) := by
  have number : (UInt8.ofNat (value + 128)).toNat = value + 128 :=
    UInt8.toNat_ofNat_of_lt' (by change value + 128 < 256; omega)
  rw [advance]
  dsimp only
  rw [number, if_pos ⟨atLeast, atMost⟩, Nat.add_sub_cancel]

end Following

@[simp] theorem advanceAll_nil (state : List Stretch × Option Opening) :
    advanceAll state [] = state := rfl

@[simp] theorem advanceAll_cons (state : List Stretch × Option Opening) (byte : UInt8)
    (bytes : Bytes) :
    advanceAll state (byte :: bytes) = advanceAll (advance state.1 state.2 byte) bytes := rfl

theorem advanceAll_append (state : List Stretch × Option Opening) (first second : Bytes) :
    advanceAll state (first ++ second) = advanceAll (advanceAll state first) second :=
  List.foldl_append

/-- The bytes of a character are found to be that character. -/
theorem advanceAll_character (found : List Stretch) (character : Char) :
    advanceAll (found, none) (String.utf8EncodeChar character) =
      (.character character :: found, none) := by
  obtain ⟨value, is⟩ : ∃ value, character.val.toNat = value := ⟨_, rfl⟩
  have whole : Char.ofNat value = character := by
    rw [← is]
    exact Char.ofNat_toNat character
  have valid : value < 0xD800 ∨ 0xDFFF < value ∧ value < 0x110000 := is ▸ character.valid
  rw [String.utf8EncodeChar, is]
  split
  · next one =>
      rw [advanceAll_cons, advanceAll_nil, advance_of_whole (by omega), whole]
  · split
    · next one two =>
        have bits : value / 64 % 32 * 64 + value % 64 = value := by omega
        rw [advanceAll_cons, advance_of_announced (announce_two (by omega) (by omega)),
          advanceAll_cons, advance_last (by omega) (by omega) (by omega), bits, whole,
          advanceAll_nil]
    · split
      · next one two three =>
          have bits : (value / 4096 % 16 * 64 + value / 64 % 64) * 64 + value % 64 = value := by
            omega
          have least : (if value / 4096 % 16 = 0 then 0xA0 else 0x80) ≤
              value / 64 % 64 + 128 := by split <;> omega
          have most : value / 64 % 64 + 128 ≤
              if value / 4096 % 16 = 13 then 0x9F else 0xBF := by split <;> omega
          rw [advanceAll_cons, advance_of_announced (announce_three (by omega)),
            advanceAll_cons, advance_within least most (by omega), advanceAll_cons,
            advance_last (by omega) (by omega) (by omega), bits, whole, advanceAll_nil]
      · next one two three =>
          have bits : ((value / 262144 % 8 * 64 + value / 4096 % 64) * 64 +
              value / 64 % 64) * 64 + value % 64 = value := by omega
          have least : (if value / 262144 % 8 = 0 then 0x90 else 0x80) ≤
              value / 4096 % 64 + 128 := by split <;> omega
          have most : value / 4096 % 64 + 128 ≤
              if value / 262144 % 8 = 4 then 0x8F else 0xBF := by split <;> omega
          rw [advanceAll_cons, advance_of_announced (announce_four (by omega)),
            advanceAll_cons, advance_within least most (by omega), advanceAll_cons,
            advance_within (by omega) (by omega) (by omega), advanceAll_cons,
            advance_last (by omega) (by omega) (by omega), bits, whole, advanceAll_nil]

theorem advanceAll_characters (found : List Stretch) (text : List Char) :
    advanceAll (found, none) (text.flatMap String.utf8EncodeChar) =
      ((text.map Stretch.character).reverse ++ found, none) := by
  induction text generalizing found with
  | nil => rfl
  | cons character rest hypothesis =>
      rw [List.flatMap_cons, advanceAll_append, advanceAll_character, hypothesis]
      simp

/-- An encoded text consists of its characters. -/
theorem stretches_encode (text : String) :
    stretches (encode text) = text.toList.map Stretch.character := by
  rw [stretches, encode, advanceAll_characters]
  simp

theorem collect_characters (position : Nat) (before text : List Char) :
    collect position before (text.map Stretch.character) = .ok (before.reverse ++ text) := by
  induction text generalizing position before with
  | nil => simp [collect]
  | cons character rest hypothesis => simp [collect, hypothesis]

@[simp] theorem decode_encode (text : String) : decode (encode text) = .ok text := by
  rw [decode, stretches_encode, collect_characters, List.reverse_nil, List.nil_append,
    Except.map, String.ofList_toList]

@[simp] theorem decode?_encode (text : String) : decode? (encode text) = some text := by
  rw [decode?, decode_encode]
  rfl

/-- A byte below 128 encodes the character of its number, and is part of no other. -/
theorem eq_of_mem_encodeChar {character : Char} {byte : UInt8} (small : byte.toNat < 128)
    (member : byte ∈ String.utf8EncodeChar character) : character = Char.ofNat byte.toNat := by
  have large (number : Nat) (least : 128 ≤ number) (bounded : number < 256) :
      byte ≠ UInt8.ofNat number := by
    rintro rfl
    rw [UInt8.toNat_ofNat_of_lt' bounded] at small
    omega
  rw [String.utf8EncodeChar] at member
  split at member
  · next one =>
      have same := List.mem_singleton.1 member
      have number : byte.toNat = character.val.toNat := by
        rw [same]
        exact UInt8.toNat_ofNat_of_lt' (by change character.val.toNat < 256; omega)
      rw [number]
      exact (Char.ofNat_toNat character).symm
  · exfalso
    split at member
    · simp only [List.mem_cons, List.not_mem_nil, or_false] at member
      rcases member with same | same <;> exact large _ (by omega) (by omega) same
    · split at member
      · simp only [List.mem_cons, List.not_mem_nil, or_false] at member
        rcases member with same | same | same <;> exact large _ (by omega) (by omega) same
      · simp only [List.mem_cons, List.not_mem_nil, or_false] at member
        rcases member with same | same | same | same <;>
          exact large _ (by omega) (by omega) same

theorem not_mem_encode {text : String} {byte : UInt8} (small : byte.toNat < 128)
    (absent : Char.ofNat byte.toNat ∉ text.toList) : byte ∉ encode text := by
  intro member
  obtain ⟨character, inside, within⟩ := List.mem_flatMap.1 member
  exact absent (eq_of_mem_encodeChar small within ▸ inside)

theorem encode_append (first second : String) :
    encode (first ++ second) = encode first ++ encode second := by
  simp [encode]

end Text
end StatelessPgp
