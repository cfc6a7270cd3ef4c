import StatelessPgp.Text.Blank

/-!
# Cutting text apart

A separator is found at its first or at its last occurrence, a list is cut at
every separator, and a text is cut into lines.  Each cut keeps all characters
but the separators themselves.
-/

namespace StatelessPgp
namespace Text

/-- The parts before and after the first occurrence of a separator. -/
def cutFirst (separator : List Char) : List Char → Option (List Char × List Char)
  | [] => if separator.isEmpty then some ([], []) else none
  | character :: rest =>
      if separator.isPrefixOf (character :: rest) then
        some ([], (character :: rest).drop separator.length)
      else
        (cutFirst separator rest).map fun (before, after) =>
          (character :: before, after)

/-- The parts before and after the last occurrence of a character. -/
def cutLast (separator : Char) (text : List Char) :
    Option (List Char × List Char) :=
  let backwards := text.reverse
  match backwards.dropWhile (· != separator) with
  | [] => none
  | _ :: before =>
      some (before.reverse, (backwards.takeWhile (· != separator)).reverse)

/-- The text without a final occurrence of the given suffix. -/
def dropSuffix (ending : List Char) (text : List Char) : List Char :=
  if ending.isSuffixOf text then text.take (text.length - ending.length) else text

/-- Put a character in front of the first piece. -/
def growFirst (character : Char) : List (List Char) → List (List Char)
  | [] => [[character]]
  | piece :: pieces => (character :: piece) :: pieces

/-- The pieces between the separators `", "`; always at least one. -/
def splitItems : List Char → List (List Char)
  | [] => [[]]
  | ',' :: ' ' :: rest => [] :: splitItems rest
  | character :: rest => growFirst character (splitItems rest)

/-- The pieces between line feeds; always at least one. -/
def splitAtLineFeeds : List Char → List (List Char)
  | [] => [[]]
  | character :: rest =>
      if character = '\n' then [] :: splitAtLineFeeds rest
      else growFirst character (splitAtLineFeeds rest)

/-- A line that was ended by a line feed loses one carriage return before it. -/
def dropCarriageReturn (line : List Char) : List Char :=
  if line.getLast? = some '\r' then line.dropLast else line

/-- The lines of pieces between line feeds.  What follows the last line feed is
a line only if it is not empty. -/
def linesOfPieces : List (List Char) → List (List Char)
  | [] => []
  | [last] => if last.isEmpty then [] else [last]
  | piece :: pieces => dropCarriageReturn piece :: linesOfPieces pieces

/-- The lines of a text, each without its line ending. -/
def lines (text : List Char) : List (List Char) :=
  linesOfPieces (splitAtLineFeeds text)

/-- The lines that hold more than blank characters. -/
def filledLines (text : List Char) : List (List Char) :=
  (lines text).filter fun line => !(trim line).isEmpty

/-- The first word of a line, up to a space, and what follows it without
leading blank characters. -/
def nextWord (text : List Char) : List Char × List Char :=
  (text.takeWhile (· != ' '), trimStart (text.dropWhile (· != ' ')))

end Text
end StatelessPgp
