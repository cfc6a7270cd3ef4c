import StatelessPgp.SessionKey

/-!
# Reading a session key by offsets

A second reader works on the bytes of a text.  It cuts out pairs of digits by their offsets, which
goes wrong within a character or beyond the end, and it reads numbers leniently, with an optional
plus sign.
-/

namespace StatelessPgp

namespace Text

/-- The bytes of a text. -/
def utf8 (text : List Char) : Bytes :=
  text.flatMap String.utf8EncodeChar

/-- Whether all bytes of a text are characters of a class by themselves. -/
def allBytes (holds : Char → Bool) (text : List Char) : Bool :=
  (utf8 text).all fun byte => holds (Char.ofNat byte.toNat)

/-- What follows so many bytes of a text, unless they end within a character or beyond the text. -/
def dropBytes? : Nat → List Char → Option (List Char)
  | 0, text => some text
  | _ + 1, [] => none
  | count + 1, character :: rest =>
      if character.utf8Size ≤ count + 1 then
        dropBytes? (count + 1 - character.utf8Size) rest
      else none

/-- So many bytes at the start of a text, unless they end within a character or beyond the text. -/
def takeBytes? : Nat → List Char → Option (List Char)
  | 0, _ => some []
  | _ + 1, [] => none
  | count + 1, character :: rest =>
      if character.utf8Size ≤ count + 1 then
        (takeBytes? (count + 1 - character.utf8Size) rest).map (character :: ·)
      else none

/-- The part of a text between two byte offsets, if both are boundaries of characters. -/
def slice? (start stop : Nat) (text : List Char) : Option (List Char) :=
  if start ≤ stop then (dropBytes? start text).bind (takeBytes? (stop - start)) else none

/-- Add a digit of a base to a number. -/
def shiftIn? (base number : Nat) (digit : Char) : Option Nat :=
  match hexValue? digit with
  | some value => if value < base then some (number * base + value) else none
  | none => none

/-- A text without one plus sign in front. -/
def unsigned : List Char → List Char
  | '+' :: rest => rest
  | text => text

/-- Read a number below a bound: at least one digit of a base up to sixteen, after an optional plus
sign. -/
def readInBase? (base bound : Nat) (text : List Char) : Option Nat :=
  if (unsigned text).isEmpty then none
  else
    match (unsigned text).foldlM (shiftIn? base) 0 with
    | some number => if number < bound then some number else none
    | none => none

/-- Read the bytes of pairs of digits at the given offsets.  There is no answer at all if a pair
cannot be cut out. -/
def readPairs? (run : List Char) : List Nat → Option (Option Bytes)
  | [] => some (some [])
  | offset :: offsets =>
      match slice? offset (offset + 2) run with
      | none => none
      | some pair =>
          match readInBase? 16 256 pair with
          | none => some none
          | some byte => (readPairs? run offsets).map (Option.map (UInt8.ofNat byte :: ·))

/-- Whether a character is a hexadecimal digit of either case. -/
def isHexDigit (character : Char) : Bool :=
  (hexValue? character).isSome

end Text

namespace SessionKey

open Text

/-- A text is not that of a key. -/
def malformed : Failure :=
  .new .badData "Provided session key does not match expected format ALGO:HEX"

/-- Read the number of an algorithm, after a look at its bytes. -/
def algorithmOfBytes? (run : List Char) : Option UInt8 :=
  if run.isEmpty || 3 < (utf8 run).length || !allBytes isDigit run then none
  else (readInBase? 10 256 run).map UInt8.ofNat

/-- Read the bytes of a key at every other offset, after a look at its bytes. -/
def keyAtOffsets? (run : List Char) : Option (Option Bytes) :=
  if run.isEmpty || (utf8 run).length % 2 != 0 || !allBytes isHexDigit run then some none
  else readPairs? run (List.range' 0 ((utf8 run).length / 2) 2)

/-- Read the text form of a key by offsets.  There is no answer at all if a cut goes wrong. -/
def parseAtOffsets? (text : String) : Option (Except Failure SessionKey) :=
  match cutFirst [':'] (cleaned text.toList) with
  | none => some (.error malformed)
  | some (number, run) =>
      match algorithmOfBytes? number with
      | none => some (.error malformed)
      | some algorithm =>
          (keyAtOffsets? run).map fun
            | some key => .ok ⟨algorithm, key⟩
            | none => .error malformed

end SessionKey

end StatelessPgp
