import StatelessPgp.Json.Shortest
import StatelessPgp.Json.Tree

/-!
# Values

A value is what a document denotes.  Its numbers have a range, its strings are
sequences of characters, the fields of an object are sorted by their keys, and
containers nest at most 127 deep.  A value is written without spaces.
-/

namespace StatelessPgp

inductive Json where
  | null
  | boolean (value : Bool)
  | integer (value : Int)
  | double (value : Binary64)
  | string (value : String)
  | array (items : List Json)
  | object (fields : List (String × Json))
  deriving Repr

namespace Json

/-- The pieces of a string as it is written. -/
def piecesOf (text : String) : List Piece :=
  text.toList.map Piece.ofCharacter

mutual

/-- The tokens of a value other than a double, and the spelling of a double. -/
def written : Json → List Char
  | .null => Token.null.spelling
  | .boolean value => (Token.boolean value).spelling
  | .integer value => (Token.numeral (.ofInteger value)).spelling
  | .double value => value.written
  | .string value => (Token.quoted (piecesOf value)).spelling
  | .array items => '[' :: writtenItems items ++ [']']
  | .object fields => '\x7b' :: writtenFields fields ++ ['\x7d']

/-- The items of an array with commas between them. -/
def writtenItems : List Json → List Char
  | [] => []
  | [item] => item.written
  | item :: items => item.written ++ ',' :: writtenItems items

/-- The fields of an object with commas between them. -/
def writtenFields : List (String × Json) → List Char
  | [] => []
  | [(key, value)] => writtenKey key ++ value.written
  | (key, value) :: fields =>
      writtenKey key ++ value.written ++ ',' :: writtenFields fields

/-- A key and the colon after it. -/
def writtenKey (key : String) : List Char :=
  (Token.quoted (piecesOf key)).spelling ++ [':']

end

def render (value : Json) : String :=
  String.ofList value.written

/-- Put a field in its place by key.  A field of the same key is replaced. -/
def insertField (key : String) (value : Json) :
    List (String × Json) → List (String × Json)
  | [] => [(key, value)]
  | (other, old) :: rest =>
      if key = other then (key, value) :: rest
      else if key < other then (key, value) :: (other, old) :: rest
      else (other, old) :: insertField key value rest

def ofNumber : Number → Json
  | .integer value => .integer value
  | .double value => .double value

def maxDepth : Nat := 127

mutual

/-- The value of a tree that may hold containers so deep. -/
def ofTree? : (depth : Nat) → Tree → Option Json
  | _, .null => some .null
  | _, .boolean value => some (.boolean value)
  | _, .numeral value => value.value?.map ofNumber
  | _, .quoted pieces => (stringOfPieces? pieces).map .string
  | 0, .array _ => none
  | depth + 1, .array items => (ofItems? depth items).map .array
  | 0, .object _ => none
  | depth + 1, .object fields =>
      (ofFields? depth [] fields).map .object

/-- The values of the items of an array. -/
def ofItems? : (depth : Nat) → List Tree → Option (List Json)
  | _, [] => some []
  | depth, item :: items => do
      let value ← ofTree? depth item
      let values ← ofItems? depth items
      return value :: values

/-- The fields of an object, put in order one after the other. -/
def ofFields? : (depth : Nat) → List (String × Json) →
    List (List Piece × Tree) → Option (List (String × Json))
  | _, found, [] => some found
  | depth, found, (key, tree) :: fields => do
      let key ← stringOfPieces? key
      let value ← ofTree? depth tree
      ofFields? depth (insertField key value found) fields

end

/-- Read a document. -/
def ofText? (text : String) : Option Json :=
  (Tree.ofText? text).bind (ofTree? maxDepth)

/-- The value of the first field with a key. -/
def field? (key : String) : Json → Option Json
  | .object fields => fields.lookup key
  | _ => none

end Json
end StatelessPgp
