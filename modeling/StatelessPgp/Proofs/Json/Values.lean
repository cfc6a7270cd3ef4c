import StatelessPgp.Proofs.Json.Trees

/-!
# Values without doubles

A value whose numbers are integers of 64 bits and whose objects have their fields in order is
read back from its text, as long as its containers do not nest too deep.
-/

namespace StatelessPgp

namespace Json

mutual

/-- The tree that a value is written as.  What is written for a double is a numeral. -/
def toTree : Json → Tree
  | .null => .null
  | .boolean value => .boolean value
  | .integer value => .numeral (.ofInteger value)
  | .double value =>
      match Numeral.ofCharacters? value.written with
      | some numeral => .numeral numeral
      | none => .null
  | .string text => .quoted (piecesOf text)
  | .array items => .array (treesOf items)
  | .object fields => .object (fieldTreesOf fields)

/-- The trees of the items of an array. -/
def treesOf : List Json → List Tree
  | [] => []
  | item :: items => item.toTree :: treesOf items

/-- The keys and trees of the fields of an object. -/
def fieldTreesOf : List (String × Json) → List (List Piece × Tree)
  | [] => []
  | (key, value) :: fields => (piecesOf key, value.toTree) :: fieldTreesOf fields

end

mutual

/-- How deep the containers of a value nest. -/
def depth : Json → Nat
  | .null | .boolean _ | .integer _ | .double _ | .string _ => 0
  | .array items => depthOfItems items + 1
  | .object fields => depthOfFields fields + 1

/-- How deep the items of an array nest. -/
def depthOfItems : List Json → Nat
  | [] => 0
  | item :: items => max item.depth (depthOfItems items)

/-- How deep the fields of an object nest. -/
def depthOfFields : List (String × Json) → Nat
  | [] => 0
  | (_, value) :: fields => max value.depth (depthOfFields fields)

end

/-- The keys of fields ascend. -/
def IsSorted (fields : List (String × Json)) : Prop :=
  fields.Pairwise fun first second => first.1 < second.1

/-- A value without doubles: its integers fit 64 bits, with a sign or without, and the fields of
its objects are in order. -/
inductive IsExact : Json → Prop
  | null : IsExact .null
  | boolean (value : Bool) : IsExact (.boolean value)
  | integer {value : Int} (least : -2 ^ 63 ≤ value) (bound : value < 2 ^ 64) :
      IsExact (.integer value)
  | string (text : String) : IsExact (.string text)
  | array {items : List Json} (exact : ∀ item ∈ items, IsExact item) : IsExact (.array items)
  | object {fields : List (String × Json)} (sorted : IsSorted fields)
      (exact : ∀ field ∈ fields, IsExact field.2) : IsExact (.object fields)

variable {value : Json} {items : List Json} {fields : List (String × Json)}

theorem treesOf_eq_map (items : List Json) : treesOf items = items.map toTree := by
  induction items with
  | nil => rw [treesOf, List.map_nil]
  | cons item items hypothesis => rw [treesOf, hypothesis, List.map_cons]

theorem fieldTreesOf_eq_map (fields : List (String × Json)) :
    fieldTreesOf fields = fields.map fun field => (piecesOf field.1, field.2.toTree) := by
  induction fields with
  | nil => rw [fieldTreesOf, List.map_nil]
  | cons field fields hypothesis => rw [fieldTreesOf, hypothesis, List.map_cons]

theorem fieldTreesOf_append (first second : List (String × Json)) :
    fieldTreesOf (first ++ second) = fieldTreesOf first ++ fieldTreesOf second := by
  rw [fieldTreesOf_eq_map, fieldTreesOf_eq_map, fieldTreesOf_eq_map, List.map_append]

/-- A value is written as its tree is spelled, in canonical tokens. -/
structure IsSpelled (value : Json) : Prop where
  written_eq : value.written = value.toTree.tokens.flatMap Token.spelling
  canonical : ∀ token ∈ value.toTree.tokens, token.IsCanonical

theorem writtenItems_eq (spelled : ∀ item ∈ items, item.IsSpelled) :
    writtenItems items = (tokensOfItems (items.map toTree)).flatMap Token.spelling := by
  induction items with
  | nil => rw [writtenItems, List.map_nil, tokensOfItems, List.flatMap_nil]
  | cons item items hypothesis =>
      obtain ⟨first, others⟩ := List.forall_mem_cons.1 spelled
      have later := hypothesis others
      cases items with
      | nil => rw [writtenItems, List.map_singleton, tokensOfItems, first.written_eq]
      | cons next items =>
          have step : writtenItems (item :: next :: items) =
              item.written ++ ',' :: writtenItems (next :: items) := by
            rw [writtenItems]
            exact nofun
          rw [step, later, first.written_eq]
          simp only [List.map_cons]
          rw [tokensOfItems_cons, List.flatMap_append, List.flatMap_cons]
          rfl

theorem writtenKey_eq (key : String) (tokens : List Token) :
    writtenKey key ++ tokens.flatMap Token.spelling =
      (.quoted (piecesOf key) :: .colon :: tokens).flatMap Token.spelling := by
  rw [writtenKey, List.flatMap_cons, List.flatMap_cons, List.append_assoc]
  rfl

theorem writtenFields_eq (spelled : ∀ field ∈ fields, field.2.IsSpelled) :
    writtenFields fields =
      (tokensOfFields (fields.map fun field => (piecesOf field.1, field.2.toTree))).flatMap
        Token.spelling := by
  induction fields with
  | nil => rw [writtenFields, List.map_nil, tokensOfFields, List.flatMap_nil]
  | cons field fields hypothesis =>
      obtain ⟨key, value⟩ := field
      obtain ⟨first, others⟩ := List.forall_mem_cons.1 spelled
      have later := hypothesis others
      cases fields with
      | nil =>
          rw [writtenFields, List.map_singleton, tokensOfFields, ← writtenKey_eq,
            first.written_eq]
      | cons next fields =>
          have step : writtenFields ((key, value) :: next :: fields) =
              writtenKey key ++ value.written ++ ',' :: writtenFields (next :: fields) := by
            rw [writtenFields]
            exact nofun
          rw [step, later, first.written_eq]
          simp only [List.map_cons]
          rw [tokensOfFields_cons, ← writtenKey_eq, List.flatMap_append, List.flatMap_cons,
            List.append_assoc]
          rfl

theorem isCanonical_tokensOfItems (spelled : ∀ item ∈ items, item.IsSpelled) :
    ∀ token ∈ tokensOfItems (items.map toTree), token.IsCanonical := by
  induction items with
  | nil =>
      rw [List.map_nil, tokensOfItems]
      exact nofun
  | cons item items hypothesis =>
      obtain ⟨first, others⟩ := List.forall_mem_cons.1 spelled
      have later := hypothesis others
      cases items with
      | nil =>
          rw [List.map_singleton, tokensOfItems]
          exact first.canonical
      | cons next items =>
          simp only [List.map_cons] at later ⊢
          rw [tokensOfItems_cons, List.forall_mem_append, List.forall_mem_cons]
          exact ⟨first.canonical, trivial, later⟩

theorem isCanonical_tokensOfFields (spelled : ∀ field ∈ fields, field.2.IsSpelled) :
    ∀ token ∈ tokensOfFields (fields.map fun field => (piecesOf field.1, field.2.toTree)),
      token.IsCanonical := by
  induction fields with
  | nil =>
      rw [List.map_nil, tokensOfFields]
      exact nofun
  | cons field fields hypothesis =>
      obtain ⟨first, others⟩ := List.forall_mem_cons.1 spelled
      have later := hypothesis others
      cases fields with
      | nil =>
          rw [List.map_singleton, tokensOfFields, List.forall_mem_cons, List.forall_mem_cons]
          exact ⟨⟨field.1, rfl⟩, trivial, first.canonical⟩
      | cons next fields =>
          simp only [List.map_cons] at later ⊢
          rw [tokensOfFields_cons, List.forall_mem_cons, List.forall_mem_cons,
            List.forall_mem_append, List.forall_mem_cons]
          exact ⟨⟨field.1, rfl⟩, trivial, first.canonical, trivial, later⟩

theorem isSpelled_array (spelled : ∀ item ∈ items, item.IsSpelled) : (array items).IsSpelled where
  written_eq := by
    rw [written, writtenItems_eq spelled, toTree, treesOf_eq_map, Tree.tokens,
      List.flatMap_append, List.flatMap_cons]
    rfl
  canonical := by
    rw [toTree, treesOf_eq_map, Tree.tokens, List.forall_mem_append, List.forall_mem_cons,
      List.forall_mem_singleton]
    exact ⟨⟨trivial, isCanonical_tokensOfItems spelled⟩, trivial⟩

theorem isSpelled_object (spelled : ∀ field ∈ fields, field.2.IsSpelled) :
    (object fields).IsSpelled where
  written_eq := by
    rw [written, writtenFields_eq spelled, toTree, fieldTreesOf_eq_map, Tree.tokens,
      List.flatMap_append, List.flatMap_cons]
    rfl
  canonical := by
    rw [toTree, fieldTreesOf_eq_map, Tree.tokens, List.forall_mem_append, List.forall_mem_cons,
      List.forall_mem_singleton]
    exact ⟨⟨trivial, isCanonical_tokensOfFields spelled⟩, trivial⟩

/-- A value that is one token. -/
theorem isSpelled_of_token (token : Token) (canonical : token.IsCanonical)
    (written : value.written = token.spelling) (tokens : value.toTree.tokens = [token]) :
    value.IsSpelled where
  written_eq := by rw [written, tokens, List.flatMap_singleton]
  canonical := by
    rw [tokens, List.forall_mem_singleton]
    exact canonical

theorem isSpelled_string (text : String) : (string text).IsSpelled :=
  isSpelled_of_token (.quoted (piecesOf text)) ⟨text, rfl⟩ (by rw [written])
    (by rw [toTree, Tree.tokens])

theorem IsExact.isSpelled (exact : value.IsExact) : value.IsSpelled := by
  induction exact with
  | null =>
      exact isSpelled_of_token .null trivial (by rw [written]) (by rw [toTree, Tree.tokens])
  | boolean value =>
      exact isSpelled_of_token (.boolean value) trivial (by rw [written])
        (by rw [toTree, Tree.tokens])
  | @integer value least bound =>
      exact isSpelled_of_token (.numeral (.ofInteger value)) ⟨value, rfl⟩ (by rw [written])
        (by rw [toTree, Tree.tokens])
  | string text => exact isSpelled_string text
  | array exact hypothesis => exact isSpelled_array hypothesis
  | object sorted exact hypothesis => exact isSpelled_object hypothesis

namespace IsSpelled

variable (spelled : value.IsSpelled)
include spelled

/-- The text of a value spells its tree. -/
theorem treeOfText?_render : Tree.ofText? value.render = some value.toTree := by
  rw [render, spelled.written_eq, Tree.ofText?_spellings spelled.canonical]

/-- The text of a value is in one line. -/
theorem lineFeed_not_mem_written : '\n' ∉ value.written := by
  rw [spelled.written_eq, List.mem_flatMap]
  rintro ⟨token, member, inside⟩
  exact Token.lineFeed_not_mem_spelling (spelled.canonical token member) inside

end IsSpelled

/-- A key that is greater than all before comes last. -/
theorem insertField_eq_append {key : String} {value : Json}
    (greatest : ∀ field ∈ fields, field.1 < key) :
    insertField key value fields = fields ++ [(key, value)] := by
  induction fields with
  | nil => rfl
  | cons field fields hypothesis =>
      obtain ⟨other, old⟩ := field
      obtain ⟨less, others⟩ := List.forall_mem_cons.1 greatest
      have differs : key ≠ other := fun same => String.lt_irrefl key (same ▸ less)
      rw [insertField, if_neg differs, if_neg (String.lt_asymm less), hypothesis others]
      rfl

theorem ofItems?_map_toTree {depth : Nat}
    (read : ∀ item ∈ items, ofTree? depth item.toTree = some item) :
    ofItems? depth (items.map toTree) = some items := by
  induction items with
  | nil => rw [List.map_nil, ofItems?]
  | cons item items hypothesis =>
      obtain ⟨first, others⟩ := List.forall_mem_cons.1 read
      rw [List.map_cons, ofItems?, first, hypothesis others]
      rfl

theorem ofFields?_map_toTree {depth : Nat} {found : List (String × Json)}
    (sorted : IsSorted (found ++ fields))
    (read : ∀ field ∈ fields, ofTree? depth field.2.toTree = some field.2) :
    ofFields? depth found (fields.map fun field => (piecesOf field.1, field.2.toTree)) =
      some (found ++ fields) := by
  induction fields generalizing found with
  | nil => rw [List.map_nil, ofFields?, List.append_nil]
  | cons field fields hypothesis =>
      obtain ⟨key, value⟩ := field
      obtain ⟨first, others⟩ := List.forall_mem_cons.1 read
      have greatest : ∀ field ∈ found, field.1 < key := fun field member =>
        (List.pairwise_append.1 sorted).2.2 field member (key, value) (.head fields)
      rw [List.append_cons] at sorted ⊢
      rw [List.map_cons, ofFields?, stringOfPieces?_piecesOf, first]
      dsimp only [bind, Option.bind]
      rw [insertField_eq_append greatest, hypothesis sorted others]

theorem depth_le_of_mem {item : Json} (member : item ∈ items) :
    item.depth ≤ depthOfItems items := by
  induction items with
  | nil => cases member
  | cons first items hypothesis =>
      rw [depthOfItems]
      rcases List.mem_cons.1 member with rfl | later
      · exact Nat.le_max_left _ _
      · exact Nat.le_trans (hypothesis later) (Nat.le_max_right _ _)

theorem depth_le_of_mem_fields {field : String × Json} (member : field ∈ fields) :
    field.2.depth ≤ depthOfFields fields := by
  induction fields with
  | nil => cases member
  | cons first fields hypothesis =>
      rw [depthOfFields]
      rcases List.mem_cons.1 member with rfl | later
      · exact Nat.le_max_left _ _
      · exact Nat.le_trans (hypothesis later) (Nat.le_max_right _ _)

namespace IsExact

/-- A value is read back from its tree if so many containers may nest. -/
theorem ofTree?_toTree (exact : value.IsExact) {depth : Nat} (bounded : value.depth ≤ depth) :
    ofTree? depth value.toTree = some value := by
  induction exact generalizing depth with
  | null | boolean => rw [toTree, ofTree?]
  | integer least bound =>
      rw [toTree, ofTree?, Numeral.value?_ofInteger least bound]
      rfl
  | string text =>
      rw [toTree, ofTree?, stringOfPieces?_piecesOf]
      rfl
  | array exact hypothesis =>
      rw [Json.depth] at bounded
      obtain ⟨inner, rfl⟩ := Nat.exists_eq_add_of_le' (Nat.one_le_of_lt bounded)
      rw [toTree, treesOf_eq_map, ofTree?, ofItems?_map_toTree]
      · rfl
      · exact fun item member => hypothesis item member
          (Nat.le_trans (depth_le_of_mem member) (Nat.le_of_succ_le_succ bounded))
  | object sorted exact hypothesis =>
      rw [Json.depth] at bounded
      obtain ⟨inner, rfl⟩ := Nat.exists_eq_add_of_le' (Nat.one_le_of_lt bounded)
      rw [toTree, fieldTreesOf_eq_map, ofTree?, ofFields?_map_toTree]
      · rfl
      · exact sorted
      · exact fun field member => hypothesis field member
          (Nat.le_trans (depth_le_of_mem_fields member) (Nat.le_of_succ_le_succ bounded))

/-- A value is read back from its text. -/
theorem ofText?_render (exact : value.IsExact) (bounded : value.depth ≤ maxDepth) :
    ofText? value.render = some value := by
  rw [ofText?, exact.isSpelled.treeOfText?_render, Option.bind_some,
    exact.ofTree?_toTree bounded]

end IsExact

end Json

end StatelessPgp
