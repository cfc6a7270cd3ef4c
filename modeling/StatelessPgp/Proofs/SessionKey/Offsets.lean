import Mathlib.Data.List.Basic
import StatelessPgp.Proofs.Text.Encoding
import StatelessPgp.Proofs.Text.Hex
import StatelessPgp.SessionKey.Offsets

/-!
# Cuts at offsets

What the reader by offsets checks beforehand makes its cuts and its lenient numbers harmless: no cut
goes wrong, and it reads the same keys as the reader by digits.
-/

namespace StatelessPgp

namespace Text

variable {holds : Char → Bool} {text run : List Char} {character : Char} {value : Nat}

theorem utf8Size_of_ascii (ascii : character.toNat < 128) : character.utf8Size = 1 := by
  rw [Char.utf8Size_eq_one_iff]
  exact Nat.le_of_lt_succ ascii

theorem encodeChar_of_ascii (ascii : character.toNat < 128) :
    String.utf8EncodeChar character = [UInt8.ofNat character.toNat] := by
  rw [String.utf8EncodeChar, if_pos (show character.val.toNat ≤ 127 from Nat.le_of_lt_succ ascii)]
  rfl

/-- If a class holds characters of one byte only, looking at bytes is looking at characters. -/
theorem allBytes_eq (ascii : ∀ character, holds character = true → character.toNat < 128)
    (text : List Char) : allBytes holds text = text.all holds := by
  have one (character : Char) : ((String.utf8EncodeChar character).all fun byte =>
      holds (Char.ofNat byte.toNat)) = holds character := by
    by_cases small : character.toNat < 128
    · have byte : (UInt8.ofNat character.toNat).toNat = character.toNat :=
        UInt8.toNat_ofNat_of_lt' (by change character.toNat < 256; omega)
      rw [encodeChar_of_ascii small, List.all_cons, List.all_nil, Bool.and_true, byte,
        Char.ofNat_toNat]
    · have fails : holds character = false := by
        by_contra held
        exact small (ascii character (by simpa using held))
      rw [fails, List.all_eq_false]
      have filled : String.utf8EncodeChar character ≠ [] := by
        intro nothing
        have length := String.length_utf8EncodeChar character
        rw [nothing] at length
        have size := character.utf8Size_pos
        simp at length
        omega
      obtain ⟨byte, rest, split⟩ := List.exists_cons_of_ne_nil filled
      have member : byte ∈ String.utf8EncodeChar character := by simp [split]
      refine ⟨byte, member, fun held => ?_⟩
      -- Such a byte would be a character by itself, and then it would be this one.
      have bound : byte.toNat < 256 := byte.toNat_lt
      have number : (Char.ofNat byte.toNat).toNat = byte.toNat := by
        rw [Char.ofNat, dif_pos (.inl (by omega))]
        rfl
      have below : byte.toNat < 128 := number ▸ ascii _ held
      rw [eq_of_mem_encodeChar below member, number] at small
      exact small below
  rw [allBytes, utf8, List.all_flatMap]
  exact congrArg text.all (funext one)

theorem toNat_lt_of_isDigit (digit : isDigit character = true) : character.toNat < 128 := by
  rw [isDigit, Bool.and_eq_true, decide_eq_true_eq, decide_eq_true_eq] at digit
  have greatest : character.toNat ≤ 57 := digit.2
  omega

theorem IsHexDigit.toNat_lt (digit : IsHexDigit character value) : character.toNat < 128 := by
  have small := digit.lt
  rcases digit with upper | lower
  · interval_cases value <;> cases upper <;> decide
  · interval_cases value <;> cases lower <;> decide

theorem isHexDigit_iff : isHexDigit character = true ↔ ∃ value, IsHexDigit character value := by
  rw [isHexDigit, Option.isSome_iff_exists]
  simp only [hexValue?_eq_some_iff]

theorem toNat_lt_of_isHexDigit (digit : isHexDigit character = true) :
    character.toNat < 128 := by
  obtain ⟨value, is⟩ := isHexDigit_iff.1 digit
  exact is.toNat_lt

section

variable (ascii : ∀ character ∈ text, character.toNat < 128)
include ascii

theorem length_utf8 : (utf8 text).length = text.length := by
  induction text with
  | nil => rfl
  | cons character rest hypothesis =>
      obtain ⟨first, others⟩ := List.forall_mem_cons.1 ascii
      rw [utf8, List.flatMap_cons, ← utf8, encodeChar_of_ascii first, List.singleton_append,
        List.length_cons, hypothesis others, List.length_cons]

/-- Where every character takes one byte, every offset is a boundary. -/
theorem dropBytes?_eq {count : Nat} (enough : count ≤ text.length) :
    dropBytes? count text = some (text.drop count) := by
  induction text generalizing count with
  | nil =>
      obtain rfl : count = 0 := Nat.le_zero.1 enough
      rfl
  | cons character rest hypothesis =>
      obtain ⟨first, others⟩ := List.forall_mem_cons.1 ascii
      cases count with
      | zero => rfl
      | succ count =>
          rw [dropBytes?, utf8Size_of_ascii first, if_pos (by omega)]
          exact hypothesis others (Nat.le_of_succ_le_succ enough)

theorem takeBytes?_eq {count : Nat} (enough : count ≤ text.length) :
    takeBytes? count text = some (text.take count) := by
  induction text generalizing count with
  | nil =>
      obtain rfl : count = 0 := Nat.le_zero.1 enough
      rfl
  | cons character rest hypothesis =>
      obtain ⟨first, others⟩ := List.forall_mem_cons.1 ascii
      cases count with
      | zero => rfl
      | succ count =>
          rw [takeBytes?, utf8Size_of_ascii first, if_pos (by omega), Nat.add_sub_cancel,
            hypothesis others (Nat.le_of_succ_le_succ enough)]
          rfl

theorem slice?_eq {start size : Nat} (enough : start + size ≤ text.length) :
    slice? start (start + size) text = some ((text.drop start).take size) := by
  have later : ∀ character ∈ text.drop start, character.toNat < 128 :=
    fun character member => ascii character (List.mem_of_mem_drop member)
  rw [slice?, if_pos (by omega), dropBytes?_eq ascii (by omega), Option.bind_some,
    Nat.add_sub_cancel_left, takeBytes?_eq later (by rw [List.length_drop]; omega)]

end

theorem foldlM_shiftIn? (digits : ∀ character ∈ run, isDigit character = true) (number : Nat) :
    run.foldlM (shiftIn? 10) number =
      some (run.foldl (fun number digit => number * 10 + digitValue digit) number) := by
  induction run generalizing number with
  | nil => rfl
  | cons digit rest hypothesis =>
      obtain ⟨first, others⟩ := List.forall_mem_cons.1 digits
      have isDecimal : IsDecimalDigit digit (digitValue digit) := isDecimalDigit_iff.2 ⟨first, rfl⟩
      have below := isDecimal.lt
      have read : hexValue? digit = some (digitValue digit) := by
        rw [hexValue?_eq_some_iff]
        rw [IsDecimalDigit] at isDecimal
        left
        interval_cases digitValue digit <;> exact isDecimal
      have shifted : shiftIn? 10 number digit = some (number * 10 + digitValue digit) := by
        rw [shiftIn?, read]
        exact if_pos below
      rw [List.foldlM_cons, shifted]
      exact hypothesis others _

theorem unsigned_eq (other : run.head? ≠ some '+') : unsigned run = run := by
  fun_cases unsigned run with
  | case1 rest => exact absurd rfl other
  | case2 => rfl

/-- Without a sign in front, the lenient reader takes the digits as they are. -/
theorem readInBase?_decimal (digits : ∀ character ∈ run, isDigit character = true)
    (filled : run ≠ []) (bound : Nat) :
    readInBase? 10 bound run =
      if numberOfDigits run < bound then some (numberOfDigits run) else none := by
  have same : unsigned run = run := unsigned_eq fun sign => by
    cases digits '+' (List.mem_of_mem_head? sign)
  rw [readInBase?, same, if_neg (by simpa using filled), foldlM_shiftIn? digits]
  rfl

theorem readInBase?_pair {high low : Char} {upper lower : Nat} (first : IsHexDigit high upper)
    (second : IsHexDigit low lower) :
    readInBase? 16 256 [high, low] = some (upper * 16 + lower) := by
  have small := first.lt
  have below := second.lt
  have same : unsigned [high, low] = [high, low] := unsigned_eq fun sign => by
    cases sign
    cases hexValue?_eq_some_iff.2 first
  have shifted : [high, low].foldlM (shiftIn? 16) 0 = some (upper * 16 + lower) := by
    simp [shiftIn?, hexValue?_eq_some_iff.2 first, hexValue?_eq_some_iff.2 second, small, below]
  rw [readInBase?, same, if_neg (by simp), shifted]
  exact if_pos (by omega)

/-- The pairs at every other offset of a run of digits are cut out one after the other. -/
theorem readPairs?_range' (digits : ∀ character ∈ run, isHexDigit character = true)
    {start count : Nat} (whole : start + 2 * count = run.length) :
    readPairs? run (List.range' start count 2) = some (unhex? (run.drop start)) := by
  induction count generalizing start with
  | zero =>
      rw [List.drop_eq_nil_of_le (by omega)]
      rfl
  | succ count hypothesis =>
      have ascii : ∀ character ∈ run, character.toNat < 128 :=
        fun character member => toNat_lt_of_isHexDigit (digits character member)
      have some_left : start < run.length := by omega
      have more_left : start + 1 < run.length := by omega
      have cut : run.drop start = run[start] :: run[start + 1] :: run.drop (start + 2) := by
        rw [List.drop_eq_getElem_cons some_left, List.drop_eq_getElem_cons more_left]
      obtain ⟨upper, first⟩ := isHexDigit_iff.1 (digits _ (List.getElem_mem some_left))
      obtain ⟨lower, second⟩ := isHexDigit_iff.1 (digits _ (List.getElem_mem more_left))
      have later : readPairs? run (List.range' (start + 2) count 2) =
          some (unhex? (run.drop (start + 2))) := hypothesis (by omega)
      rw [List.range'_succ, readPairs?, slice?_eq ascii (by omega), cut]
      simp only [List.take_succ_cons, List.take_zero, readInBase?_pair first second, later,
        unhex?, hexValue?_eq_some_iff.2 first, hexValue?_eq_some_iff.2 second, Option.map_some]
      cases unhex? (run.drop (start + 2)) <;> rfl

end Text

namespace SessionKey

open Text

variable {run : List Char}

theorem algorithmOfBytes?_eq (run : List Char) : algorithmOfBytes? run = algorithm? run := by
  rw [algorithmOfBytes?, algorithm?, allBytes_eq fun _ => toNat_lt_of_isDigit]
  cases all : run.all isDigit with
  | false => simp
  | true =>
      have digits : ∀ character ∈ run, isDigit character = true := List.all_eq_true.1 all
      rw [length_utf8 fun character member => toNat_lt_of_isDigit (digits character member)]
      split
      · rfl
      · next admitted =>
          have filled : run ≠ [] := by
            rintro rfl
            simp at admitted
          rw [readInBase?_decimal digits filled]
          by_cases fits : numberOfDigits run < 256
          · rw [if_pos fits, if_neg (by omega)]
            rfl
          · rw [if_neg fits, if_pos (by omega)]
            rfl

theorem isHexDigit_of_spells {bytes : Bytes} (spells : SpellsBytes run bytes) :
    ∀ character ∈ run, isHexDigit character = true := by
  induction spells with
  | nil => exact nofun
  | cons first second _ hypothesis =>
      exact List.forall_mem_cons.2 ⟨isHexDigit_iff.2 ⟨_, first⟩,
        List.forall_mem_cons.2 ⟨isHexDigit_iff.2 ⟨_, second⟩, hypothesis⟩⟩

/-- What is checked beforehand keeps every cut between two digits. -/
theorem keyAtOffsets?_eq (run : List Char) : keyAtOffsets? run = some (key? run) := by
  rw [keyAtOffsets?, key?, allBytes_eq fun _ => toNat_lt_of_isHexDigit]
  by_cases digits : ∀ character ∈ run, isHexDigit character = true
  · have all : run.all isHexDigit = true := List.all_eq_true.2 digits
    have length : (utf8 run).length = run.length :=
      length_utf8 fun character member => toNat_lt_of_isHexDigit (digits character member)
    rw [length, all]
    by_cases filled : run = []
    · simp [filled]
    · by_cases even : run.length % 2 = 0
      · rw [if_neg (by simp [filled, even]), if_neg (by simpa using filled),
          readPairs?_range' digits (by omega)]
        rfl
      · have odd : unhex? run = none := by
          by_contra read
          obtain ⟨bytes, found⟩ := Option.ne_none_iff_exists'.1 read
          have length := (unhex?_eq_some_iff.1 found).length_eq
          omega
        rw [if_pos (by simp; omega), odd]
        simp
  · have none_read : unhex? run = none := by
      by_contra read
      obtain ⟨bytes, found⟩ := Option.ne_none_iff_exists'.1 read
      exact digits (isHexDigit_of_spells (unhex?_eq_some_iff.1 found))
    have refused : run.all isHexDigit = false := by
      rw [← Bool.not_eq_true, List.all_eq_true]
      exact digits
    rw [if_pos (by simp [refused]), none_read]
    simp

theorem parse_eq (text : String) :
    parse text = match ofText? text.toList with
      | some sessionKey => .ok sessionKey
      | none => .error malformed := rfl

/-- Reading by offsets always has an answer, and it is the same. -/
theorem parseAtOffsets?_eq (text : String) : parseAtOffsets? text = some (parse text) := by
  rw [parseAtOffsets?, parse_eq, ofText?]
  cases cutFirst [':'] (cleaned text.toList) with
  | none => rfl
  | some parts =>
      obtain ⟨number, run⟩ := parts
      simp only [algorithmOfBytes?_eq, keyAtOffsets?_eq]
      cases found : algorithm? number with
      | none => simp [found]
      | some algorithm => cases read : key? run <;> simp [found, read]

end SessionKey
end StatelessPgp
