import StatelessPgp.Json.Numeral
import StatelessPgp.Text.Hex

/-!
# Tokens

A document is a row of brackets, separators, words, numerals and quoted
strings, with spaces between them.  Each token has one spelling here; reading
also accepts the other spellings that the format allows for numerals and
strings.
-/

namespace StatelessPgp
namespace Json

/-- A piece of a quoted string. -/
inductive Piece where
  /-- A character that stands for itself. -/
  | plain (character : Char)
  /-- A character written as a backslash and a letter or mark. -/
  | short (character : Char)
  /-- A unit of sixteen bits written as four hexadecimal digits. -/
  | unit (value : Nat)
  deriving DecidableEq, Repr

inductive Token where
  | openArray
  | closeArray
  | openObject
  | closeObject
  | colon
  | comma
  | null
  | boolean (value : Bool)
  | numeral (value : Numeral)
  | quoted (pieces : List Piece)
  deriving DecidableEq, Repr

/-- The characters with a short escape, and what follows the backslash. -/
def shortEscapes : List (Char × Char) :=
  [('"', '"'), ('\\', '\\'), ('/', '/'), ('\x08', 'b'), ('\x0c', 'f'),
    ('\n', 'n'), ('\r', 'r'), ('\t', 't')]

/-- What follows the backslash in the short escape of a character. -/
def shortLetter (character : Char) : Char :=
  (shortEscapes.lookup character).getD character

/-- The character that a short escape with this letter stands for. -/
def ofShortLetter? (letter : Char) : Option Char :=
  (shortEscapes.find? fun entry => entry.2 == letter).map (·.1)

namespace Piece

/-- The piece that a character is written as: the quotation mark, the backslash
and control characters are escaped, shortly where that is possible. -/
def ofCharacter (character : Char) : Piece :=
  if character = '"' ∨ character = '\\' then .short character
  else if character.toNat < 0x20 then
    if (shortEscapes.lookup character).isSome then .short character
    else .unit character.toNat
  else .plain character

def spelling : Piece → List Char
  | .plain character => [character]
  | .short character => ['\\', shortLetter character]
  | .unit value =>
      '\\' :: 'u' ::
        [value / 4096 % 16, value / 256 % 16, value / 16 % 16, value % 16].map
          Text.lowerHexDigit

end Piece

/-- The characters that pieces stand for.  A unit of the first half of a pair
must be followed by one of the second, and one of the second stands nowhere
else. -/
def charactersOfPieces? : List Piece → Option (List Char)
  | [] => some []
  | .plain character :: rest => (charactersOfPieces? rest).map (character :: ·)
  | .short character :: rest => (charactersOfPieces? rest).map (character :: ·)
  | .unit high :: .unit low :: rest =>
      if 0xD800 ≤ high ∧ high < 0xDC00 then
        if 0xDC00 ≤ low ∧ low < 0xE000 then
          (charactersOfPieces? rest).map
            (Char.ofNat (0x10000 + (high - 0xD800) * 0x400 + (low - 0xDC00)) :: ·)
        else none
      else if 0xDC00 ≤ high ∧ high < 0xE000 then none
      else (charactersOfPieces? (.unit low :: rest)).map (Char.ofNat high :: ·)
  | .unit value :: rest =>
      if 0xD800 ≤ value ∧ value < 0xE000 then none
      else (charactersOfPieces? rest).map (Char.ofNat value :: ·)

/-- The string that pieces stand for. -/
def stringOfPieces? (pieces : List Piece) : Option String :=
  (charactersOfPieces? pieces).map String.ofList

def Token.spelling : Token → List Char
  | .openArray => ['[']
  | .closeArray => [']']
  | .openObject => ['\x7b']
  | .closeObject => ['\x7d']
  | .colon => [':']
  | .comma => [',']
  | .null => "null".toList
  | .boolean true => "true".toList
  | .boolean false => "false".toList
  | .numeral value => value.characters
  | .quoted pieces => '"' :: pieces.flatMap Piece.spelling ++ ['"']

/-- Whether a character may stand between tokens. -/
def isSpace (character : Char) : Bool :=
  character == ' ' || character == '\n' || character == '\r' || character == '\t'

/-- Whether a character can occur in a numeral. -/
def inNumeral (character : Char) : Bool :=
  Text.isDigit character || character == '-' || character == '+' ||
    character == '.' || character == 'e' || character == 'E'

/-- Whether a character can occur in a word. -/
def inWord (character : Char) : Bool :=
  'a' ≤ character && character ≤ 'z'

/-- Where the reader of tokens stands. -/
inductive Position where
  /-- Between tokens. -/
  | between
  /-- In a word; its letters, last first. -/
  | word (letters : List Char)
  /-- In a numeral; its characters, last first. -/
  | numeral (characters : List Char)
  /-- In a quoted string; its pieces, last first. -/
  | quoted (pieces : List Piece)
  /-- After a backslash. -/
  | escape (pieces : List Piece)
  /-- In a unit of which so many digits are missing. -/
  | unit (pieces : List Piece) (missing value : Nat)
  deriving DecidableEq, Repr

namespace Position

def wordToken? (letters : List Char) : Option Token :=
  if letters = "null".toList then some .null
  else if letters = "true".toList then some (.boolean true)
  else if letters = "false".toList then some (.boolean false)
  else none

/-- The token that ends here, if one does.  A quoted string does not end by
itself. -/
def leave (position : Position) (tokens : List Token) : Option (List Token) :=
  match position with
  | .between => some tokens
  | .word letters => (wordToken? letters.reverse).map (· :: tokens)
  | .numeral characters =>
      (Numeral.ofCharacters? characters.reverse).map (.numeral · :: tokens)
  | .quoted _ | .escape _ | .unit _ _ _ => none

/-- Read a character between tokens; the tokens found are kept last first. -/
def enter (character : Char) (tokens : List Token) :
    Option (Position × List Token) :=
  if isSpace character then some (.between, tokens)
  else if character = '[' then some (.between, .openArray :: tokens)
  else if character = ']' then some (.between, .closeArray :: tokens)
  else if character = '\x7b' then some (.between, .openObject :: tokens)
  else if character = '\x7d' then some (.between, .closeObject :: tokens)
  else if character = ':' then some (.between, .colon :: tokens)
  else if character = ',' then some (.between, .comma :: tokens)
  else if character = '"' then some (.quoted [], tokens)
  else if Text.isDigit character || character == '-' then
    some (.numeral [character], tokens)
  else if inWord character then some (.word [character], tokens)
  else none

def advance (position : Position) (character : Char) (tokens : List Token) :
    Option (Position × List Token) :=
  match position with
  | .between => enter character tokens
  | .word letters =>
      if inWord character then some (.word (character :: letters), tokens)
      else (leave position tokens).bind (enter character)
  | .numeral characters =>
      if inNumeral character then some (.numeral (character :: characters), tokens)
      else (leave position tokens).bind (enter character)
  | .quoted pieces =>
      if character = '"' then some (.between, .quoted pieces.reverse :: tokens)
      else if character = '\\' then some (.escape pieces, tokens)
      else if character.toNat < 0x20 then none
      else some (.quoted (.plain character :: pieces), tokens)
  | .escape pieces =>
      if character = 'u' then some (.unit pieces 4 0, tokens)
      else (ofShortLetter? character).map fun meant =>
        (.quoted (.short meant :: pieces), tokens)
  | .unit pieces missing value =>
      (Text.hexValue? character).map fun digit =>
        let value := value * 16 + digit
        if missing ≤ 1 then (.quoted (.unit value :: pieces), tokens)
        else (.unit pieces (missing - 1) value, tokens)

end Position

/-- Read the tokens of a text from a position on. -/
def tokensFrom? (position : Position) (found : List Token) :
    List Char → Option (List Token)
  | [] => (position.leave found).map List.reverse
  | character :: rest =>
      match position.advance character found with
      | none => none
      | some (position, found) => tokensFrom? position found rest

def tokens? (text : List Char) : Option (List Token) :=
  tokensFrom? .between [] text

end Json
end StatelessPgp
