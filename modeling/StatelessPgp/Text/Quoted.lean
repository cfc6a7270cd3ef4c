import StatelessPgp.Text.Hex
import StatelessPgp.Text.Utf8
import StatelessPgp.Text.Visible

/-!
# Quoted texts

Descriptions of records and some messages show a text between quotation marks,
with escapes for the mark, for the backslash, for control characters and for
characters that cannot be seen.
-/

namespace StatelessPgp
namespace Text

/-- A character as it is shown in a quoted text. -/
def showCharacter (character : Char) : List Char :=
  if character = '"' then ['\\', '"']
  else if character = '\\' then ['\\', '\\']
  else if character = '\n' then ['\\', 'n']
  else if character = '\r' then ['\\', 'r']
  else if character = '\t' then ['\\', 't']
  else if character = '\x00' then ['\\', '0']
  else if isConcealed character then
    ['\\', 'u', '\x7b'] ++ hexNumber character.toNat ++ ['\x7d']
  else [character]

def quoted (text : String) : String :=
  String.ofList ('"' :: text.toList.flatMap showCharacter ++ ['"'])

def quotedList (texts : List String) : String :=
  "[" ++ String.intercalate ", " (texts.map quoted) ++ "]"

/-- A byte as two digits after a mark. -/
def showByte (byte : UInt8) : List Char :=
  ['\\', 'x'] ++ hex [byte]

/-- The stretches of an input together with the bytes of each. -/
def stretchesWithBytes : List Stretch → Bytes → List (Stretch × Bytes)
  | [], _ => []
  | stretch :: rest, bytes =>
      (stretch, bytes.take stretch.length) ::
        stretchesWithBytes rest (bytes.drop stretch.length)

/-- Data between quotation marks.  Bytes that are not UTF-8 are shown by their
digits. -/
def quotedBytes (bytes : Bytes) : String :=
  let shown := (stretchesWithBytes (stretches bytes) bytes).flatMap
    fun (stretch, part) =>
      match stretch with
      | .character value => showCharacter value
      | .wrong _ | .unfinished _ => part.flatMap showByte
  String.ofList ('"' :: shown ++ ['"'])

end Text
end StatelessPgp
