import StatelessPgp.Proofs.Json.Tokens

/-!
# Trees and their tokens

The tokens of a tree are read back as the tree.  Whatever containers are still open, reading
the tokens of a value comes to the same as putting the value where it belongs.
-/

namespace StatelessPgp

namespace Json

mutual

/-- The tokens that a tree is written with. -/
def Tree.tokens : Tree → List Token
  | .null => [.null]
  | .boolean value => [.boolean value]
  | .numeral value => [.numeral value]
  | .quoted pieces => [.quoted pieces]
  | .array items => .openArray :: tokensOfItems items ++ [.closeArray]
  | .object fields => .openObject :: tokensOfFields fields ++ [.closeObject]

/-- The items of an array with commas between them. -/
def tokensOfItems : List Tree → List Token
  | [] => []
  | [item] => item.tokens
  | item :: items => item.tokens ++ .comma :: tokensOfItems items

/-- The fields of an object with commas between them. -/
def tokensOfFields : List (List Piece × Tree) → List Token
  | [] => []
  | [(key, tree)] => .quoted key :: .colon :: tree.tokens
  | (key, tree) :: fields =>
      .quoted key :: .colon :: tree.tokens ++ .comma :: tokensOfFields fields

end

theorem Tree.exists_tokens (tree : Tree) :
    ∃ token tokens, tree.tokens = token :: tokens ∧ token ≠ .closeArray := by
  cases tree with
  | null => exact ⟨.null, [], by rw [tokens], nofun⟩
  | boolean value => exact ⟨.boolean value, [], by rw [tokens], nofun⟩
  | numeral value => exact ⟨.numeral value, [], by rw [tokens], nofun⟩
  | quoted pieces => exact ⟨.quoted pieces, [], by rw [tokens], nofun⟩
  | array items => exact ⟨.openArray, _, by rw [tokens, List.cons_append], nofun⟩
  | object fields => exact ⟨.openObject, _, by rw [tokens, List.cons_append], nofun⟩

theorem tokensOfItems_cons (item next : Tree) (items : List Tree) :
    tokensOfItems (item :: next :: items) =
      item.tokens ++ .comma :: tokensOfItems (next :: items) := by
  rw [tokensOfItems]
  exact nofun

theorem tokensOfFields_cons (key : List Piece) (tree : Tree) (next : List Piece × Tree)
    (fields : List (List Piece × Tree)) :
    tokensOfFields ((key, tree) :: next :: fields) =
      .quoted key :: .colon :: (tree.tokens ++ .comma :: tokensOfFields (next :: fields)) := by
  rw [tokensOfFields]
  · rfl
  · exact nofun

theorem exists_tokensOfItems (item : Tree) (items : List Tree) :
    ∃ token tokens, tokensOfItems (item :: items) = token :: tokens ∧ token ≠ .closeArray := by
  obtain ⟨token, tokens, split, other⟩ := item.exists_tokens
  cases items with
  | nil => exact ⟨token, tokens, by rw [tokensOfItems, split], other⟩
  | cons next items =>
      exact ⟨token, _, by rw [tokensOfItems_cons, split, List.cons_append], other⟩

theorem exists_tokensOfFields (field : List Piece × Tree) (fields : List (List Piece × Tree)) :
    ∃ tokens, tokensOfFields (field :: fields) = .quoted field.1 :: tokens := by
  cases fields with
  | nil => exact ⟨_, by rw [tokensOfFields]⟩
  | cons next fields => exact ⟨_, tokensOfFields_cons _ _ next fields⟩

namespace Stage

variable {stack : List Frame} {rest : List Token}

theorem advanceAll?_cons (stage : Stage) (token : Token) (tokens : List Token) :
    stage.advanceAll? (token :: tokens) =
      (stage.advance token).bind fun stage => stage.advanceAll? tokens := by
  rw [advanceAll?]
  cases stage.advance token <;> rfl

/-- What follows the start of an array is its end or an item. -/
theorem advanceAll?_firstItem (item : Tree) (items : List Tree) :
    (firstItem stack).advanceAll? (tokensOfItems (item :: items) ++ rest) =
      (value stack).advanceAll? (tokensOfItems (item :: items) ++ rest) := by
  obtain ⟨token, tokens, split, other⟩ := exists_tokensOfItems item items
  have same : (firstItem stack).advance token = (value stack).advance token := if_neg other
  rw [split, List.cons_append, advanceAll?_cons, advanceAll?_cons, same]

/-- What follows the start of an object is its end or a key. -/
theorem advanceAll?_firstKey (field : List Piece × Tree) (fields : List (List Piece × Tree)) :
    (firstKey stack).advanceAll? (tokensOfFields (field :: fields) ++ rest) =
      (key stack).advanceAll? (tokensOfFields (field :: fields) ++ rest) := by
  obtain ⟨tokens, split⟩ := exists_tokensOfFields field fields
  rw [split]
  rfl

mutual

/-- Reading the tokens of a value puts it where it belongs. -/
theorem advanceAll?_tokens (tree : Tree) (stack : List Frame) (rest : List Token) :
    (value stack).advanceAll? (tree.tokens ++ rest) =
      (complete tree stack).bind fun stage => stage.advanceAll? rest := by
  cases tree with
  | null | boolean | numeral | quoted =>
      rw [Tree.tokens, List.singleton_append, advanceAll?_cons]
      rfl
  | array items =>
      have opened : (value stack).advance .openArray = some (firstItem (.array [] :: stack)) := rfl
      rw [Tree.tokens, List.cons_append, List.cons_append, List.append_assoc,
        List.singleton_append, advanceAll?_cons, opened, Option.bind_some]
      -- An empty array is closed at once, without a stage of its own for the rest.
      cases items with
      | nil => exact advanceAll?_cons _ _ _
      | cons item items =>
          have closed (before : List Tree) :
              (Stage.rest (.array before :: stack)).advance .closeArray =
                complete (.array before.reverse) stack := rfl
          rw [advanceAll?_firstItem,
            advanceAll?_tokensOfItems (item :: items) (List.cons_ne_nil _ _), advanceAll?_cons,
            closed, List.append_nil, List.reverse_reverse]
  | object fields =>
      have opened : (value stack).advance .openObject = some (firstKey (.object [] :: stack)) :=
        rfl
      rw [Tree.tokens, List.cons_append, List.cons_append, List.append_assoc,
        List.singleton_append, advanceAll?_cons, opened, Option.bind_some]
      cases fields with
      | nil => exact advanceAll?_cons _ _ _
      | cons field fields =>
          have closed (before : List (List Piece × Tree)) :
              (Stage.rest (.object before :: stack)).advance .closeObject =
                complete (.object before.reverse) stack := rfl
          rw [advanceAll?_firstKey,
            advanceAll?_tokensOfFields (field :: fields) (List.cons_ne_nil _ _), advanceAll?_cons,
            closed, List.append_nil, List.reverse_reverse]

/-- Items are put in front of those that were read before. -/
theorem advanceAll?_tokensOfItems (items : List Tree) (filled : items ≠ []) (before : List Tree)
    (stack : List Frame) (rest : List Token) :
    (value (.array before :: stack)).advanceAll? (tokensOfItems items ++ rest) =
      (Stage.rest (.array (items.reverse ++ before) :: stack)).advanceAll? rest := by
  cases items with
  | nil => exact absurd rfl filled
  | cons item items =>
      have added : complete item (.array before :: stack) =
        some (.rest (.array (item :: before) :: stack)) := rfl
      cases items with
      | nil =>
          rw [tokensOfItems, advanceAll?_tokens item, added]
          rfl
      | cons next items =>
          have comma : (Stage.rest (.array (item :: before) :: stack)).advance .comma =
            some (value (.array (item :: before) :: stack)) := rfl
          rw [tokensOfItems_cons, List.append_assoc, advanceAll?_tokens item, added,
            Option.bind_some, List.cons_append, advanceAll?_cons, comma, Option.bind_some,
            advanceAll?_tokensOfItems (next :: items) (List.cons_ne_nil _ _),
            List.reverse_cons (a := item), List.append_assoc, List.singleton_append]

/-- Fields are put in front of those that were read before. -/
theorem advanceAll?_tokensOfFields (fields : List (List Piece × Tree)) (filled : fields ≠ [])
    (before : List (List Piece × Tree)) (stack : List Frame) (rest : List Token) :
    (key (.object before :: stack)).advanceAll? (tokensOfFields fields ++ rest) =
      (Stage.rest (.object (fields.reverse ++ before) :: stack)).advanceAll? rest := by
  cases fields with
  | nil => exact absurd rfl filled
  | cons field fields =>
      obtain ⟨name, tree⟩ := field
      have named (tokens : List Token) :
          (key (.object before :: stack)).advanceAll? (.quoted name :: .colon :: tokens) =
            (value (.field before name :: stack)).advanceAll? tokens := rfl
      have added : complete tree (.field before name :: stack) =
        some (.rest (.object ((name, tree) :: before) :: stack)) := rfl
      cases fields with
      | nil =>
          rw [tokensOfFields, List.cons_append, List.cons_append, named, advanceAll?_tokens tree,
            added]
          rfl
      | cons next fields =>
          have comma : (Stage.rest (.object ((name, tree) :: before) :: stack)).advance .comma =
            some (key (.object ((name, tree) :: before) :: stack)) := rfl
          rw [tokensOfFields_cons, List.cons_append, List.cons_append, List.append_assoc, named,
            advanceAll?_tokens tree, added, Option.bind_some, List.cons_append, advanceAll?_cons,
            comma, Option.bind_some,
            advanceAll?_tokensOfFields (next :: fields) (List.cons_ne_nil _ _),
            List.reverse_cons (a := (name, tree)), List.append_assoc, List.singleton_append]

end

end Stage

/-- A tree is read back from its tokens. -/
theorem Tree.ofTokens?_tokens (tree : Tree) : ofTokens? tree.tokens = some tree := by
  have read := Stage.advanceAll?_tokens tree [] []
  rw [List.append_nil] at read
  rw [ofTokens?, read]
  rfl

section

variable {left right : List Token} {mark : Token}

theorem isChain_cons_mark (isMark : mark.isRun = false) (apart : right.IsChain Token.Apart) :
    (mark :: right).IsChain Token.Apart :=
  List.isChain_cons.2 ⟨fun _ _ => .inl isMark, apart⟩

theorem isChain_append_mark (before : left.IsChain Token.Apart) (isMark : mark.isRun = false)
    (after : right.IsChain Token.Apart) : (left ++ mark :: right).IsChain Token.Apart := by
  refine List.isChain_append.2 ⟨before, isChain_cons_mark isMark after, fun last _ first same => ?_⟩
  cases same
  exact .inr isMark

end

mutual

/-- Words and numerals of a tree stand between marks. -/
theorem Tree.isChain_tokens (tree : Tree) : tree.tokens.IsChain Token.Apart := by
  cases tree with
  | null | boolean | numeral | quoted =>
      rw [Tree.tokens]
      exact List.isChain_singleton _
  | array items =>
      rw [Tree.tokens, List.cons_append]
      exact isChain_cons_mark rfl
        (isChain_append_mark (isChain_tokensOfItems items) rfl List.isChain_nil)
  | object fields =>
      rw [Tree.tokens, List.cons_append]
      exact isChain_cons_mark rfl
        (isChain_append_mark (isChain_tokensOfFields fields) rfl List.isChain_nil)

theorem isChain_tokensOfItems (items : List Tree) :
    (tokensOfItems items).IsChain Token.Apart := by
  cases items with
  | nil =>
      rw [tokensOfItems]
      exact List.isChain_nil
  | cons item items =>
      have first := item.isChain_tokens
      cases items with
      | nil => rwa [tokensOfItems]
      | cons next items =>
          rw [tokensOfItems_cons]
          exact isChain_append_mark first rfl (isChain_tokensOfItems (next :: items))

theorem isChain_tokensOfFields (fields : List (List Piece × Tree)) :
    (tokensOfFields fields).IsChain Token.Apart := by
  cases fields with
  | nil =>
      rw [tokensOfFields]
      exact List.isChain_nil
  | cons field fields =>
      obtain ⟨key, tree⟩ := field
      have first := tree.isChain_tokens
      cases fields with
      | nil =>
          rw [tokensOfFields]
          exact isChain_cons_mark rfl (isChain_cons_mark rfl first)
      | cons next fields =>
          rw [tokensOfFields_cons]
          exact isChain_cons_mark rfl (isChain_cons_mark rfl
            (isChain_append_mark first rfl (isChain_tokensOfFields (next :: fields))))

end

/-- A tree of canonical tokens is read back from the text that spells them. -/
theorem Tree.ofText?_spellings {tree : Tree}
    (canonical : ∀ token ∈ tree.tokens, token.IsCanonical) :
    ofText? (String.ofList (tree.tokens.flatMap Token.spelling)) = some tree := by
  rw [ofText?, String.toList_ofList, tokens?_spellings canonical tree.isChain_tokens,
    Option.bind_some, tree.ofTokens?_tokens]

end Json

end StatelessPgp
