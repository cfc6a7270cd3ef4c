/-!
# UTF-8

Bytes are read as UTF-8 by a machine that looks at one byte at a time.  It cuts
the input into characters and into maximal beginnings of characters that went
wrong, so the same run serves three readers: the strict one, the one that puts
U+FFFD for each wrong stretch, and the one that says where the first error lies.
-/

namespace StatelessPgp

/-- Raw data, as it passes through files, pipes and the environment. -/
abbrev Bytes := List UInt8

namespace Text

def encode (text : String) : Bytes :=
  text.toList.flatMap String.utf8EncodeChar

/-- A stretch of the input. -/
inductive Stretch where
  | character (value : Char)
  /-- So many bytes that begin a character and are followed by one that cannot
  continue it. -/
  | wrong (length : Nat)
  /-- So many bytes that begin a character at the end of the input. -/
  | unfinished (length : Nat)
  deriving DecidableEq, Repr

/-- How many bytes a stretch takes. -/
def Stretch.length : Stretch → Nat
  | .character value => value.utf8Size
  | .wrong length => length
  | .unfinished length => length

/-- A character of which some bytes are still to come. -/
structure Opening where
  bits : Nat
  /-- How many bytes have been read. -/
  taken : Nat
  /-- How many bytes follow the next one. -/
  after : Nat
  /-- The least value of the next byte. -/
  low : Nat
  /-- The greatest value of the next byte. -/
  high : Nat
  deriving DecidableEq, Repr

/-- What the first byte of a character announces: a whole character, a longer
one, or nothing that can begin a character. -/
def announce (byte : UInt8) : Stretch ⊕ Opening :=
  let value := byte.toNat
  if value < 0x80 then .inl (.character (Char.ofNat value))
  else if value < 0xC2 then .inl (.wrong 1)
  else if value < 0xE0 then .inr ⟨value - 0xC0, 1, 0, 0x80, 0xBF⟩
  else if value = 0xE0 then .inr ⟨0, 1, 1, 0xA0, 0xBF⟩
  else if value = 0xED then .inr ⟨0xD, 1, 1, 0x80, 0x9F⟩
  else if value < 0xF0 then .inr ⟨value - 0xE0, 1, 1, 0x80, 0xBF⟩
  else if value = 0xF0 then .inr ⟨0, 1, 2, 0x90, 0xBF⟩
  else if value < 0xF4 then .inr ⟨value - 0xF0, 1, 2, 0x80, 0xBF⟩
  else if value = 0xF4 then .inr ⟨4, 1, 2, 0x80, 0x8F⟩
  else .inl (.wrong 1)

/-- Read a byte between characters. -/
def startWith (stretches : List Stretch) (byte : UInt8) :
    List Stretch × Option Opening :=
  match announce byte with
  | .inl stretch => (stretch :: stretches, none)
  | .inr expected => (stretches, some expected)

/-- Read a byte in any state; the stretches found are kept latest first. -/
def advance (stretches : List Stretch) (expected : Option Opening)
    (byte : UInt8) : List Stretch × Option Opening :=
  match expected with
  | none => startWith stretches byte
  | some pending =>
      let value := byte.toNat
      if pending.low ≤ value ∧ value ≤ pending.high then
        let bits := pending.bits * 64 + (value - 0x80)
        match pending.after with
        | 0 => (.character (Char.ofNat bits) :: stretches, none)
        | after + 1 =>
            (stretches, some ⟨bits, pending.taken + 1, after, 0x80, 0xBF⟩)
      else
        startWith (.wrong pending.taken :: stretches) byte

/-- The state of the machine after reading all bytes from a state. -/
def advanceAll (state : List Stretch × Option Opening) (bytes : Bytes) :
    List Stretch × Option Opening :=
  bytes.foldl (fun (stretches, expected) byte =>
    advance stretches expected byte) state

def stretches (bytes : Bytes) : List Stretch :=
  match advanceAll ([], none) bytes with
  | (found, none) => found.reverse
  | (found, some pending) => (.unfinished pending.taken :: found).reverse

/-- Where and how an input stops being UTF-8. -/
structure DecodingError where
  /-- How many bytes were read before the error. -/
  position : Nat
  /-- How many bytes are wrong, or nothing if the input ends within a
  character. -/
  length : Option Nat
  deriving DecidableEq, Repr

def DecodingError.message (error : DecodingError) : String :=
  match error.length with
  | some length =>
      s!"invalid utf-8 sequence of {length} bytes from index {error.position}"
  | none => s!"incomplete utf-8 byte sequence from index {error.position}"

/-- Collect characters up to the first stretch that is none. -/
def collect (position : Nat) (characters : List Char) :
    List Stretch → Except DecodingError (List Char)
  | [] => .ok characters.reverse
  | .character value :: rest =>
      collect (position + value.utf8Size) (value :: characters) rest
  | .wrong length :: _ => .error ⟨position, some length⟩
  | .unfinished _ :: _ => .error ⟨position, none⟩

/-- Decode well formed UTF-8. -/
def decode (bytes : Bytes) : Except DecodingError String :=
  (collect 0 [] (stretches bytes)).map String.ofList

/-- Decode UTF-8, or nothing. -/
def decode? (bytes : Bytes) : Option String :=
  (decode bytes).toOption

/-- The character that stands for a stretch where every error is replaced. -/
def Stretch.replaced : Stretch → Char
  | .character value => value
  | .wrong _ => '\uFFFD'
  | .unfinished _ => '\uFFFD'

/-- Decode with U+FFFD for each stretch that is not UTF-8. -/
def decodeLossy (bytes : Bytes) : String :=
  String.ofList ((stretches bytes).map Stretch.replaced)

end Text
end StatelessPgp
