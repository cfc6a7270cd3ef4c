import StatelessPgp.Proofs.Operation.Allocation

/-!
# The words of pieces

Each piece of a command line has one word, which goes to its place or is held back.  A
word that refers to a secret carries the number of the secret among those of its
category.  What a draft gains from pieces is what their words say.
-/

namespace StatelessPgp

/-- Where the word of a piece goes: in its place, or held back as the first word or as
one of the others. -/
inductive Position where
  | inline
  | first
  | rest
  deriving DecidableEq

/-- A word of a command line.  One that refers to a secret names its binding. -/
inductive Token where
  | plain (text : String)
  | reference (lead : String) (binding : Binding)
  deriving DecidableEq

namespace Token

/-- The word as it is passed on. -/
def text : Token → String
  | .plain text => text
  | .reference lead binding => lead ++ binding.reference

/-- The binding that a word refers to. -/
def binding? : Token → Option Binding
  | .plain _ => none
  | .reference _ binding => some binding

def refersTo (binding : Binding) (token : Token) : Bool :=
  token.binding? == some binding

/-- Bare references to values of one category, numbered from a start. -/
def references (category : Category) (start : Nat) (values : List Bytes) : List Token :=
  (values.zipIdx start).map fun entry => .reference "" ⟨category, entry.2, entry.1⟩

theorem references_concat (category : Category) (start : Nat) (values : List Bytes)
    (value : Bytes) :
    references category start (values ++ [value]) =
      references category start values ++
        [.reference "" ⟨category, start + values.length, value⟩] := by
  simp [references, List.zipIdx_append]

theorem of_mem_references {category : Category} {start : Nat} {values : List Bytes}
    {token : Token} (member : token ∈ references category start values) :
    ∃ binding, token = .reference "" binding ∧ binding.category = category ∧
      binding.index < start + values.length := by
  obtain ⟨entry, inside, rfl⟩ := List.mem_map.1 member
  exact ⟨_, rfl, rfl, List.snd_lt_add_of_mem_zipIdx inside⟩

end Token

namespace Piece

def position : Piece → Position
  | .word _ | .option _ _ | .secretWord _ _ | .secretOption _ _ _ => .inline
  | .heldFirst _ | .secretHeldFirst _ _ => .first
  | .secretHeld _ _ => .rest

/-- How many of the pieces hold a secret of a category. -/
def ordinal (pieces : List Piece) (category : Category) : Nat :=
  pieces.countP fun piece => decide (piece.secret?.map Prod.fst = some category)

/-- The word of a piece, where so many secrets of each category come before it. -/
def token (numbers : Category → Nat) : Piece → Token
  | .word text | .heldFirst text => .plain text
  | .option name value => .plain (name ++ "=" ++ value)
  | .secretWord category value | .secretHeldFirst category value
  | .secretHeld category value => .reference "" ⟨category, numbers category, value⟩
  | .secretOption name category value =>
      .reference (name ++ "=") ⟨category, numbers category, value⟩

/-- The words of pieces that follow others, each with its position. -/
def tokens (before : List Piece) : List Piece → List (Position × Token)
  | [] => []
  | piece :: rest =>
      (piece.position, piece.token (ordinal before)) :: tokens (before ++ [piece]) rest

/-- The words of pieces that go to one position. -/
def tokensAt (position : Position) (before pieces : List Piece) : List Token :=
  ((tokens before pieces).filter fun entry => decide (entry.1 = position)).map Prod.snd

variable {position : Position} {before pieces rest : List Piece} {piece : Piece}

@[simp] theorem tokensAt_nil : tokensAt position before [] = [] := rfl

theorem tokensAt_cons (position : Position) (before : List Piece) (piece : Piece)
    (rest : List Piece) :
    tokensAt position before (piece :: rest) =
      (if piece.position = position then [piece.token (ordinal before)] else []) ++
        tokensAt position (before ++ [piece]) rest := by
  by_cases here : piece.position = position <;> simp [tokensAt, tokens, here]

theorem ordinal_append (before pieces : List Piece) (category : Category) :
    ordinal (before ++ pieces) category =
      ordinal before category + ordinal pieces category :=
  List.countP_append

theorem tokensAt_append (position : Position) (before pieces more : List Piece) :
    tokensAt position before (pieces ++ more) =
      tokensAt position before pieces ++ tokensAt position (before ++ pieces) more := by
  induction pieces generalizing before with
  | nil => simp
  | cons piece rest hypothesis => simp [tokensAt_cons, hypothesis]

theorem tokens_append (before pieces more : List Piece) :
    tokens before (pieces ++ more) = tokens before pieces ++ tokens (before ++ pieces) more := by
  induction pieces generalizing before with
  | nil => simp [tokens]
  | cons piece rest hypothesis => simp [tokens, hypothesis]

/-- Pieces with no word for a position leave nothing there. -/
theorem tokensAt_eq_nil (elsewhere : ∀ piece ∈ pieces, piece.position ≠ position) :
    tokensAt position before pieces = [] := by
  induction pieces generalizing before with
  | nil => rfl
  | cons piece rest hypothesis =>
      have later := @hypothesis (before ++ [piece]) fun other member =>
        elsewhere other (by simp [member])
      simp [tokensAt_cons, elsewhere piece (by simp), later]

/-- A piece that holds back a secret has the bare reference for its word. -/
theorem token_of_secret {category : Category} {value : Bytes} {numbers : Category → Nat}
    (secret : piece.secret? = some (category, value)) (apart : piece.position ≠ .inline) :
    piece.token numbers = .reference "" ⟨category, numbers category, value⟩ := by
  cases piece with
  | secretHeldFirst | secretHeld =>
      cases secret
      rfl
  | word | option | secretWord | secretOption => exact absurd rfl apart
  | heldFirst => cases secret

theorem binding?_token (numbers : Category → Nat) (piece : Piece) :
    (piece.token numbers).binding? =
      piece.secret?.map fun secret => ⟨secret.1, numbers secret.1, secret.2⟩ := by
  cases piece <;> rfl

theorem mem_tokensAt {token : Token} (member : (position, token) ∈ tokens before pieces) :
    token ∈ tokensAt position before pieces := by
  simpa [tokensAt] using member

theorem of_mem_tokensAt {token : Token} (member : token ∈ tokensAt position before pieces) :
    ∃ piece ∈ pieces, piece.position = position ∧
      ∃ numbers, token = piece.token numbers := by
  induction pieces generalizing before with
  | nil => cases member
  | cons piece rest hypothesis =>
      rw [tokensAt_cons] at member
      rcases List.mem_append.1 member with here | later
      · split at here
        · next place =>
            exact ⟨piece, .head _, place, _, List.mem_singleton.1 here⟩
        · cases here
      · obtain ⟨other, inside, found⟩ := hypothesis later
        exact ⟨other, .tail _ inside, found⟩

/-- Every word goes to one of the positions. -/
theorem countP_tokens (test : Token → Bool) (before pieces : List Piece) :
    ((tokens before pieces).map Prod.snd).countP test =
      (tokensAt .inline before pieces).countP test +
        (tokensAt .first before pieces).countP test +
        (tokensAt .rest before pieces).countP test := by
  induction pieces generalizing before with
  | nil => rfl
  | cons piece rest hypothesis =>
      have later := hypothesis (before ++ [piece])
      cases place : piece.position <;>
        simp [tokens, tokensAt_cons, place, List.countP_cons, later] <;> omega

end Piece

namespace Draft

open Piece

/-- What pieces add to a draft whose secrets are numbered like those of the pieces
before. -/
theorem addAll_eq (draft : Draft) (before pieces : List Piece)
    (numbered : ∀ category, draft.secrets.count category = ordinal before category) :
    draft.addAll pieces =
      { draft with
        words := draft.words ++ (tokensAt .inline before pieces).map Token.text
        secrets := draft.secrets ++ (tokens before pieces).filterMap (·.2.binding?)
        first := ((tokensAt .first before pieces).getLast?.map Token.text).or draft.first
        held := draft.held ++ (tokensAt .rest before pieces).map Token.text } := by
  induction pieces generalizing draft before with
  | nil => simp [tokens]
  | cons piece rest hypothesis =>
      have counted (category : Category) :
          (draft.add piece).secrets.count category =
            ordinal (before ++ [piece]) category := by
        rw [ordinal_append, ← numbered category, secrets_add]
        cases held : piece.secret? with
        | none => simp [ordinal, held]
        | some secret =>
            dsimp only
            rw [Secrets.count_append]
            simp [ordinal, held, Secrets.count, Secrets.next, List.countP_cons]
      rw [addAll_cons, hypothesis (draft.add piece) (before ++ [piece]) counted]
      cases piece with
      | word | option =>
          simp [add, option, word, tokens, tokensAt_cons, Piece.position, token, Token.text,
            Token.binding?]
      | secretWord | secretOption | secretHeld =>
          simp [add, bind, option, word, nextReference, Secrets.next, numbered, tokens,
            tokensAt_cons, Piece.position, token, Token.text, Token.binding?,
            Binding.reference, Binding.name]
      | heldFirst | secretHeldFirst =>
          cases later : (tokensAt .first (before ++ [_]) rest).getLast? <;>
            simp [add, bind, nextReference, Secrets.next, numbered, tokens, tokensAt_cons,
              Piece.position, token, Token.text, Token.binding?, Binding.reference,
              Binding.name, List.getLast?_cons, later]

end Draft

end StatelessPgp
