import StatelessPgp.Proofs.Operation.Vector

/-!
# What settings contribute

A setting contributes its words in view of the settings before it, which number its secret.
All its words go to one position, so that the command line of an operation is made of whole
contributions.
-/

namespace StatelessPgp

namespace Setting

/-- The category of the secret that a setting is given. -/
def category? : Setting → Option Category
  | .keyPassword _ | .oldKeyPassword _ | .newKeyPassword _ => some .keyPassword
  | .password _ => some .password
  | .sessionKey _ => some .sessionKey
  | .key _ => some .key
  | .cert _ => some .cert
  | .signWith _ => some .signWith
  | .verifyWith _ => some .verifyWith
  | .signatures _ => some .signature
  | .noArmor | .signingOnly | .noNewMechanisms | .noRequireSelfSig | .addrSpecOnly
  | .userId _ | .profile _ | .signAs _ | .inlineSignAs _ | .encryptAs _
  | .encryptFor _ | .label _ | .notBefore _ | .notAfter _ | .validateAt _ => none

/-- Whether two settings are of one kind, whatever they are given. -/
def isLike (kind setting : Setting) : Bool :=
  kind.ctorIdx == setting.ctorIdx

/-- The secret that a setting is given, with its category. -/
def sealed? (setting : Setting) : Option (Category × Bytes) :=
  setting.category?.bind fun category => setting.secret?.map fun value => (category, value)

end Setting

/-- A setting and those before it. -/
structure Contribution where
  before : List Setting
  setting : Setting
  deriving DecidableEq

namespace Contribution

/-- The contributions of settings that follow others. -/
def all (before : List Setting) : List Setting → List Contribution
  | [] => []
  | setting :: rest => ⟨before, setting⟩ :: all (before ++ [setting]) rest

/-- How many secrets of a category have been given before. -/
def number (contribution : Contribution) (category : Category) : Nat :=
  contribution.before.countP fun setting =>
    decide (setting.sealed?.map Prod.fst = some category)

/-- The binding for the secret of a setting. -/
def binding? (contribution : Contribution) : Option Binding :=
  contribution.setting.sealed?.map fun (category, value) =>
    ⟨category, contribution.number category, value⟩

/-- The words of a setting. -/
def words (operation : Operation) (contribution : Contribution) : List String :=
  (operation.pieces contribution.setting).map fun piece =>
    (piece.token contribution.number).text

theorem map_setting_all (before settings : List Setting) :
    (all before settings).map setting = settings := by
  induction settings generalizing before with
  | nil => rfl
  | cons setting rest hypothesis => rw [all, List.map_cons, hypothesis]

theorem of_mem_all {before settings : List Setting} {contribution : Contribution}
    (member : contribution ∈ all before settings) :
    contribution.setting ∈ settings ∧
      ∀ setting ∈ contribution.before, setting ∈ before ++ settings := by
  induction settings generalizing before with
  | nil => cases member
  | cons setting rest hypothesis =>
      rcases List.mem_cons.1 member with rfl | later
      · exact ⟨.head _, fun other inside => List.mem_append_left _ inside⟩
      · obtain ⟨inside, earlier⟩ := hypothesis later
        refine ⟨.tail _ inside, fun other within => ?_⟩
        simpa using earlier other within

end Contribution

namespace Operation

variable {operation : Operation} {setting : Setting} {position : Position}
  {before settings : List Setting}

/-- Where the words for a setting go. -/
def place (operation : Operation) : Setting → Position
  | .userId _ => if operation = .validateUserId then .first else .inline
  | .key _ => if operation = .certifyUserId then .rest else .inline
  | .cert _ =>
      if operation = .validateUserId ∨ operation = .verify then .rest else .inline
  | .signatures _ => .first
  | _ => .inline

/-- A setting contributes one piece with its secret, if it is given one, perhaps after a word
in its place. -/
theorem pieces_of_accepts (accepted : operation.accepts setting = true) :
    ∃ (texts : List String) (piece : Piece),
      operation.pieces setting = texts.map .word ++ [piece] ∧
      (texts = [] ∨ operation.place setting = .inline) ∧
      piece.position = operation.place setting ∧ piece.secret? = setting.sealed? := by
  unfold accepts at accepted
  cases setting with
  | userId =>
      cases operation <;> first
        | exact ⟨[], _, rfl, .inl rfl, rfl, rfl⟩
        | exact ⟨["--userid"], _, rfl, .inr rfl, rfl, rfl⟩
        | cases accepted
  | cert =>
      cases operation <;> first
        | exact ⟨[], _, rfl, .inl rfl, rfl, rfl⟩
        | exact ⟨["--merge-certs"], _, rfl, .inr rfl, rfl, rfl⟩
        | cases accepted
  | key | notBefore | notAfter =>
      cases operation <;> first
        | exact ⟨[], _, rfl, .inl rfl, rfl, rfl⟩
        | cases accepted
  | _ => exact ⟨[], _, only_of_ne_nil accepted, .inl rfl, rfl, rfl⟩

theorem ordinal_words (texts : List String) (category : Category) :
    Piece.ordinal (texts.map .word) category = 0 := by
  simp [Piece.ordinal, List.countP_eq_zero, Piece.secret?]

theorem ordinal_pieces (accepted : operation.accepts setting = true) (category : Category) :
    Piece.ordinal (operation.pieces setting) category =
      if setting.sealed?.map Prod.fst = some category then 1 else 0 := by
  obtain ⟨texts, piece, contributed, -, -, secret⟩ := pieces_of_accepts accepted
  rw [contributed, Piece.ordinal_append, ordinal_words, Nat.zero_add, Piece.ordinal,
    List.countP_singleton, secret]
  simp only [decide_eq_true_eq]

/-- The settings before number the secrets of a category. -/
theorem ordinal_allPieces (offered : ∀ setting ∈ before, operation.accepts setting = true)
    (setting : Setting) :
    Piece.ordinal (operation.allPieces before) = Contribution.number ⟨before, setting⟩ := by
  funext category
  induction before with
  | nil => rfl
  | cons head rest hypothesis =>
      have split : operation.allPieces (head :: rest) =
          operation.pieces head ++ operation.allPieces rest := rfl
      rw [split, Piece.ordinal_append, ordinal_pieces (offered head (.head _)),
        hypothesis fun other member => offered other (.tail _ member)]
      simp only [Contribution.number, List.countP_cons, decide_eq_true_eq, Nat.add_comm]

theorem tokens_words (texts : List String) (piece : Piece) (before : List Piece) :
    Piece.tokens before (texts.map .word ++ [piece]) =
      (texts.map Piece.word ++ [piece]).map fun piece =>
        (piece.position, piece.token (Piece.ordinal before)) := by
  induction texts generalizing before with
  | nil => rfl
  | cons text rest hypothesis =>
      have numbers : Piece.ordinal (before ++ [.word text]) = Piece.ordinal before := by
        funext category
        rw [Piece.ordinal_append]
        exact congrArg (Piece.ordinal before category + ·) (ordinal_words [text] category)
      rw [List.map_cons, List.cons_append, Piece.tokens, hypothesis, numbers]
      rfl

/-- All words of a setting go to its place. -/
theorem tokens_pieces (offered : ∀ setting ∈ before, operation.accepts setting = true)
    (accepted : operation.accepts setting = true) :
    Piece.tokens (operation.allPieces before) (operation.pieces setting) =
      (operation.pieces setting).map fun piece =>
        (operation.place setting, piece.token (Contribution.number ⟨before, setting⟩)) := by
  obtain ⟨texts, piece, contributed, inline, place, -⟩ := pieces_of_accepts accepted
  rw [contributed, tokens_words, ordinal_allPieces offered setting]
  apply List.map_congr_left
  intro other member
  rcases List.mem_append.1 member with word | last
  · obtain ⟨text, inside, rfl⟩ := List.mem_map.1 word
    rcases inline with rfl | inline
    · cases inside
    · rw [inline]
      rfl
  · obtain rfl := List.mem_singleton.1 last
    rw [place]

theorem allPieces_concat (before : List Setting) (setting : Setting) :
    operation.allPieces before ++ operation.pieces setting =
      operation.allPieces (before ++ [setting]) := by
  simp [allPieces]

/-- The words for a position are those of the settings that go there. -/
theorem map_tokensAt (before : List Setting)
    (offered : ∀ setting ∈ before ++ settings, operation.accepts setting = true)
    (position : Position) :
    (Piece.tokensAt position (operation.allPieces before) (operation.allPieces settings)).map
        Token.text =
      ((Contribution.all before settings).filter fun contribution =>
        decide (operation.place contribution.setting = position)).flatMap
          (Contribution.words operation) := by
  induction settings generalizing before with
  | nil => rfl
  | cons setting rest hypothesis =>
      have split : operation.allPieces (setting :: rest) =
          operation.pieces setting ++ operation.allPieces rest := rfl
      have later := hypothesis (before ++ [setting]) (by simpa using offered)
      have here : (Piece.tokensAt position (operation.allPieces before)
          (operation.pieces setting)).map Token.text =
          if operation.place setting = position then
            Contribution.words operation ⟨before, setting⟩
          else [] := by
        rw [Piece.tokensAt, tokens_pieces (fun other member =>
          offered other (List.mem_append_left _ member)) (offered setting (by simp))]
        split
        · next goes => simp [goes, List.filter_map, Function.comp_def, Contribution.words]
        · next apart => simp [apart, List.filter_map, Function.comp_def]
      rw [split, Piece.tokensAt_append, List.map_append, here, allPieces_concat, later,
        Contribution.all, List.filter_cons]
      by_cases goes : operation.place setting = position <;> simp [goes]

/-- The secrets of an operation are those of its settings. -/
theorem filterMap_binding?_tokens (before : List Setting)
    (offered : ∀ setting ∈ before ++ settings, operation.accepts setting = true) :
    (Piece.tokens (operation.allPieces before) (operation.allPieces settings)).filterMap
        (·.2.binding?) =
      (Contribution.all before settings).filterMap Contribution.binding? := by
  induction settings generalizing before with
  | nil => rfl
  | cons setting rest hypothesis =>
      have split : operation.allPieces (setting :: rest) =
          operation.pieces setting ++ operation.allPieces rest := rfl
      have later := hypothesis (before ++ [setting]) (by simpa using offered)
      obtain ⟨texts, piece, contributed, -, -, secret⟩ :=
        pieces_of_accepts (offered setting (by simp))
      have here : (Piece.tokens (operation.allPieces before)
          (operation.pieces setting)).filterMap (·.2.binding?) =
          (Contribution.binding? ⟨before, setting⟩).toList := by
        rw [tokens_pieces (fun other member =>
          offered other (List.mem_append_left _ member)) (offered setting (by simp)),
          contributed, List.filterMap_map, List.filterMap_append]
        have unsealed : (texts.map Piece.word).filterMap
            ((fun entry : Position × Token => entry.2.binding?) ∘ fun piece =>
              (operation.place setting,
                piece.token (Contribution.number ⟨before, setting⟩))) = [] := by
          simp [Piece.token, Token.binding?]
        rw [unsealed, List.nil_append]
        simp only [Function.comp_def, List.filterMap_cons, List.filterMap_nil,
          Piece.binding?_token, secret, Contribution.binding?]
        cases setting.sealed? <;> rfl
      rw [split, Piece.tokens_append, List.filterMap_append, here, allPieces_concat, later,
        Contribution.all]
      cases given : Contribution.binding? ⟨before, setting⟩ <;> simp [given]

end Operation

end StatelessPgp
