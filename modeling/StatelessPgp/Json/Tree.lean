import StatelessPgp.Json.Token

/-!
# Trees of tokens

Arrays and objects nest without limit in the grammar.  A tree keeps numerals
and strings as they are written, so that values that are passed over are held to
the grammar only.  It is built by a machine that keeps the containers it stands
in on a stack.
-/

namespace StatelessPgp
namespace Json

/-- A document that is read for its grammar only. -/
inductive Tree where
  | null
  | boolean (value : Bool)
  | numeral (value : Numeral)
  | quoted (pieces : List Piece)
  | array (items : List Tree)
  | object (fields : List (List Piece × Tree))
  deriving Repr

/-- A container that is being read, with what it holds so far, last first. -/
inductive Frame where
  | array (items : List Tree)
  | object (fields : List (List Piece × Tree))
  /-- An object of which a field has its key and not its value. -/
  | field (fields : List (List Piece × Tree)) (key : List Piece)
  deriving Repr

/-- What may come next. -/
inductive Stage where
  /-- A value. -/
  | value (stack : List Frame)
  /-- A value or the end of the array that was opened. -/
  | firstItem (stack : List Frame)
  /-- A key or the end of the object that was opened. -/
  | firstKey (stack : List Frame)
  /-- A key. -/
  | key (stack : List Frame)
  /-- A colon. -/
  | colon (stack : List Frame)
  /-- A comma or the end of the container. -/
  | rest (stack : List Frame)
  /-- Nothing. -/
  | finished (tree : Tree)
  deriving Repr

namespace Stage

/-- Put a value that has been read where it belongs. -/
def complete (tree : Tree) : List Frame → Option Stage
  | [] => some (.finished tree)
  | .array items :: stack => some (.rest (.array (tree :: items) :: stack))
  | .field fields name :: stack =>
      some (.rest (.object ((name, tree) :: fields) :: stack))
  | .object _ :: _ => none

/-- Read the first token of a value. -/
def beginValue (stack : List Frame) : Token → Option Stage
  | .null => complete .null stack
  | .boolean truth => complete (.boolean truth) stack
  | .numeral number => complete (.numeral number) stack
  | .quoted pieces => complete (.quoted pieces) stack
  | .openArray => some (.firstItem (.array [] :: stack))
  | .openObject => some (.firstKey (.object [] :: stack))
  | .closeArray | .closeObject | .colon | .comma => none

def beginField (stack : List Frame) (token : Token) : Option Stage :=
  match token, stack with
  | .quoted name, .object fields :: stack => some (.colon (.field fields name :: stack))
  | _, _ => none

/-- Read the end of the innermost container. -/
def close (stack : List Frame) (token : Token) : Option Stage :=
  match token, stack with
  | .closeArray, .array items :: stack => complete (.array items.reverse) stack
  | .closeObject, .object fields :: stack =>
      complete (.object fields.reverse) stack
  | _, _ => none

/-- Read what follows a value in a container. -/
def continueContainer (stack : List Frame) (token : Token) : Option Stage :=
  match token, stack with
  | .comma, .array _ :: _ => some (.value stack)
  | .comma, .object _ :: _ => some (.key stack)
  | _, _ => close stack token

def advance (stage : Stage) (token : Token) : Option Stage :=
  match stage with
  | .value stack => beginValue stack token
  | .firstItem stack =>
      if token = .closeArray then close stack token else beginValue stack token
  | .firstKey stack =>
      if token = .closeObject then close stack token else beginField stack token
  | .key stack => beginField stack token
  | .colon stack => if token = .colon then some (.value stack) else none
  | .rest stack => continueContainer stack token
  | .finished _ => none

def advanceAll? (stage : Stage) : List Token → Option Stage
  | [] => some stage
  | token :: tokens =>
      match stage.advance token with
      | none => none
      | some stage => advanceAll? stage tokens

end Stage

/-- The tree that a row of tokens spells. -/
def Tree.ofTokens? (tokens : List Token) : Option Tree :=
  match Stage.advanceAll? (.value []) tokens with
  | some (.finished tree) => some tree
  | _ => none

/-- The tree that a text spells. -/
def Tree.ofText? (text : String) : Option Tree :=
  (tokens? text.toList).bind Tree.ofTokens?

end Json
end StatelessPgp
