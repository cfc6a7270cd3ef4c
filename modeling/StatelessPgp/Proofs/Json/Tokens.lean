import Mathlib.Data.List.Chain
import StatelessPgp.Json.Value
import StatelessPgp.Proofs.Json.Numerals

/-!
# Rows of tokens

Tokens that are spelled one after the other are read back as they were.  Marks and quoted
strings end by themselves; a word or a numeral ends where a mark begins, so two of them must
not stand side by side.
-/

namespace StatelessPgp

open Text

namespace Json

variable {found : List Token} {rest : List Char}

/-- Neither a word nor a numeral goes on into the text. -/
def Interrupts (rest : List Char) : Prop :=
  ∀ character, rest.head? = some character →
    inNumeral character = false ∧ inWord character = false

/-- A token that ends by itself at the end of the text ends as well before a character that does
not belong to it. -/
theorem tokensFrom?_of_leave {position : Position} {after : List Token}
    (leaves : position.leave found = some after)
    (stops : ∀ character, rest.head? = some character →
      position.advance character found =
        (position.leave found).bind (Position.enter character)) :
    tokensFrom? position found rest = tokensFrom? .between after rest := by
  cases rest with
  | nil =>
      rw [tokensFrom?, leaves]
      rfl
  | cons character rest =>
      rw [tokensFrom?, stops character rfl, leaves]
      rfl

theorem tokensFrom?_word {letters : List Char} {token : Token}
    (isToken : Position.wordToken? letters.reverse = some token) (interrupts : Interrupts rest) :
    tokensFrom? (.word letters) found rest = tokensFrom? .between (token :: found) rest := by
  apply tokensFrom?_of_leave
  · rw [Position.leave, isToken]
    rfl
  · intro character first
    rw [Position.advance, (interrupts character first).2, if_neg Bool.false_ne_true]

theorem tokensFrom?_numeral {characters : List Char} {numeral : Numeral}
    (isNumeral : Numeral.ofCharacters? characters.reverse = some numeral)
    (interrupts : Interrupts rest) :
    tokensFrom? (.numeral characters) found rest =
      tokensFrom? .between (.numeral numeral :: found) rest := by
  apply tokensFrom?_of_leave
  · rw [Position.leave, isNumeral]
    rfl
  · intro character first
    rw [Position.advance, (interrupts character first).1, if_neg Bool.false_ne_true]

theorem tokensFrom?_inNumeral {run : List Char} (belongs : ∀ character ∈ run, inNumeral character)
    (characters : List Char) :
    tokensFrom? (.numeral characters) found (run ++ rest) =
      tokensFrom? (.numeral (run.reverse ++ characters)) found rest := by
  induction run generalizing characters with
  | nil => rfl
  | cons character run hypothesis =>
      obtain ⟨first, others⟩ := List.forall_mem_cons.1 belongs
      rw [List.cons_append, tokensFrom?, Position.advance, if_pos first]
      dsimp only
      rw [hypothesis others, List.reverse_cons, List.append_assoc, List.singleton_append]

theorem enter_numeral {character : Char} (begins : isDigit character = true ∨ character = '-') :
    Position.enter character found = some (.numeral [character], found) := by
  have differs (other : Char) (mark : isDigit other = false ∧ other ≠ '-') :
      character ≠ other := by
    rintro rfl
    rcases begins with digit | minus
    · exact Bool.false_ne_true (mark.1.symm.trans digit)
    · exact mark.2 minus
  have between : isSpace character = false := by
    simp [isSpace, differs ' ' (by decide), differs '\n' (by decide), differs '\r' (by decide),
      differs '\t' (by decide)]
  have numeral : (isDigit character || character == '-') = true := by simpa using begins
  rw [Position.enter, between, if_neg Bool.false_ne_true, if_neg (differs '[' (by decide)),
    if_neg (differs ']' (by decide)), if_neg (differs '\x7b' (by decide)),
    if_neg (differs '\x7d' (by decide)), if_neg (differs ':' (by decide)),
    if_neg (differs ',' (by decide)), if_neg (differs '"' (by decide)), if_pos numeral]

theorem tokensFrom?_ofInteger (value : Int) (interrupts : Interrupts rest) :
    tokensFrom? .between found ((Numeral.ofInteger value).characters ++ rest) =
      tokensFrom? .between (.numeral (.ofInteger value) :: found) rest := by
  obtain ⟨first, run, written, begins, allDigits⟩ := Numeral.characters_ofInteger value
  have belongs : ∀ character ∈ run, inNumeral character := by
    intro character member
    rw [inNumeral, allDigits character member]
    rfl
  have isNumeral : Numeral.ofCharacters? (run.reverse ++ [first]).reverse =
      some (.ofInteger value) := by
    rw [List.reverse_append, List.reverse_reverse, List.reverse_singleton,
      List.singleton_append, ← written, Numeral.ofCharacters?_ofInteger]
  rw [written, List.cons_append, tokensFrom?, Position.advance, enter_numeral begins]
  dsimp only
  rw [tokensFrom?_inNumeral belongs, tokensFrom?_numeral isNumeral interrupts]

section

variable {value : Nat}

theorem hexValue?_lowerHexDigit (small : value < 16) :
    hexValue? (lowerHexDigit value) = some value := by
  interval_cases value <;> rfl

theorem lowerHexDigit_ne_lineFeed (small : value < 16) : lowerHexDigit value ≠ '\n' := by
  interval_cases value <;> decide

end

namespace Piece

/-- A character is written as it is, or as a short escape, or, among the control characters, as
a unit. -/
theorem ofCharacter_cases (character : Char) :
    ofCharacter character = .plain character ∧ character ≠ '"' ∧ character ≠ '\\' ∧
        ¬ character.toNat < 0x20 ∨
      ofCharacter character = .short character ∧ character ∈ shortEscapes.map Prod.fst ∨
      ofCharacter character = .unit character.toNat ∧ character.toNat < 0x20 := by
  rw [ofCharacter]
  split
  · next marked =>
      refine .inr (.inl ⟨rfl, ?_⟩)
      rcases marked with rfl | rfl <;> decide
  · next unmarked =>
      obtain ⟨noQuote, noBackslash⟩ := not_or.1 unmarked
      split
      · next control =>
          split
          · next known =>
              obtain ⟨entry, member, same⟩ := List.lookup_isSome_iff.1 known
              refine .inr (.inl ⟨rfl, ?_⟩)
              rw [eq_of_beq same]
              exact List.mem_map_of_mem member
          · exact .inr (.inr ⟨rfl, control⟩)
      · next visible => exact .inl ⟨rfl, noQuote, noBackslash, visible⟩

theorem short_escapes : ∀ character ∈ shortEscapes.map Prod.fst,
    shortLetter character ≠ 'u' ∧ ofShortLetter? (shortLetter character) = some character ∧
      shortLetter character ≠ '\n' := by
  intro character member
  simp only [shortEscapes, List.map_cons, List.map_nil, List.mem_cons, List.not_mem_nil,
    or_false] at member
  rcases member with rfl | rfl | rfl | rfl | rfl | rfl | rfl | rfl <;> decide

section

variable {digit : Nat} (small : digit < 16) (pieces : List Piece) (value : Nat)
include small

theorem tokensFrom?_digit (missing : Nat) :
    tokensFrom? (.unit pieces (missing + 2) value) found (lowerHexDigit digit :: rest) =
      tokensFrom? (.unit pieces (missing + 1) (value * 16 + digit)) found rest := by
  rw [tokensFrom?, Position.advance, hexValue?_lowerHexDigit small, Option.map_some]
  dsimp only
  rw [if_neg (by omega)]
  rfl

theorem tokensFrom?_lastDigit :
    tokensFrom? (.unit pieces 1 value) found (lowerHexDigit digit :: rest) =
      tokensFrom? (.quoted (.unit (value * 16 + digit) :: pieces)) found rest := by
  rw [tokensFrom?, Position.advance, hexValue?_lowerHexDigit small]
  rfl

end

/-- The four digits of a unit give its value. -/
theorem tokensFrom?_unit {value : Nat} (bounded : value < 0x10000) (pieces : List Piece) :
    tokensFrom? (.quoted pieces) found ((unit value).spelling ++ rest) =
      tokensFrom? (.quoted (.unit value :: pieces)) found rest := by
  have digit (number : Nat) : number % 16 < 16 := Nat.mod_lt number (by decide)
  have whole : (((0 * 16 + value / 4096 % 16) * 16 + value / 256 % 16) * 16 +
      value / 16 % 16) * 16 + value % 16 = value := by omega
  have begins (text : List Char) : tokensFrom? (.quoted pieces) found ('\\' :: 'u' :: text) =
      tokensFrom? (.unit pieces 4 0) found text :=
    rfl
  rw [spelling, List.cons_append, List.cons_append, begins]
  simp only [List.map_cons, List.map_nil, List.cons_append, List.nil_append]
  rw [tokensFrom?_digit (digit _), tokensFrom?_digit (digit _), tokensFrom?_digit (digit _),
    tokensFrom?_lastDigit (digit _), whole]

theorem tokensFrom?_ofCharacter (character : Char) (pieces : List Piece) :
    tokensFrom? (.quoted pieces) found ((ofCharacter character).spelling ++ rest) =
      tokensFrom? (.quoted (ofCharacter character :: pieces)) found rest := by
  rcases ofCharacter_cases character with ⟨plain, noQuote, noBackslash, visible⟩ |
    ⟨short, escaped⟩ | ⟨unit, control⟩
  · rw [plain, spelling, List.singleton_append, tokensFrom?, Position.advance, if_neg noQuote,
      if_neg noBackslash, if_neg visible]
  · obtain ⟨noUnit, meant, -⟩ := short_escapes character escaped
    have begins (text : List Char) : tokensFrom? (.quoted pieces) found ('\\' :: text) =
        tokensFrom? (.escape pieces) found text := rfl
    rw [short, spelling, List.cons_append, List.singleton_append, begins, tokensFrom?,
      Position.advance, if_neg noUnit, meant]
    rfl
  · rw [unit, tokensFrom?_unit (by omega)]

theorem lineFeed_not_mem_spelling (character : Char) :
    '\n' ∉ (ofCharacter character).spelling := by
  rcases ofCharacter_cases character with ⟨plain, -, -, visible⟩ | ⟨short, escaped⟩ | ⟨unit, -⟩
  · rw [plain, spelling, List.mem_singleton]
    rintro rfl
    exact visible (by decide)
  · rw [short, spelling]
    simpa using (short_escapes character escaped).2.2.symm
  · have digit (number : Nat) : '\n' ≠ lowerHexDigit (number % 16) :=
      (lowerHexDigit_ne_lineFeed (Nat.mod_lt number (by decide))).symm
    rw [unit, spelling]
    simp [digit]

end Piece

theorem tokensFrom?_piecesOf (text : List Char) (pieces : List Piece) :
    tokensFrom? (.quoted pieces) found
        ((text.map Piece.ofCharacter).flatMap Piece.spelling ++ rest) =
      tokensFrom? (.quoted ((text.map Piece.ofCharacter).reverse ++ pieces)) found rest := by
  induction text generalizing pieces with
  | nil => rfl
  | cons character text hypothesis =>
      rw [List.map_cons, List.flatMap_cons, List.append_assoc, Piece.tokensFrom?_ofCharacter,
        hypothesis, List.reverse_cons, List.append_assoc, List.singleton_append]

/-- A unit below the halves of pairs stands for a character by itself. -/
theorem charactersOfPieces?_unit {value : Nat} (whole : value < 0xD800) (pieces : List Piece) :
    charactersOfPieces? (.unit value :: pieces) =
      (charactersOfPieces? pieces).map (Char.ofNat value :: ·) := by
  have noHigh : ¬ (0xD800 ≤ value ∧ value < 0xDC00) := by omega
  have noLow : ¬ (0xDC00 ≤ value ∧ value < 0xE000) := by omega
  have noHalf : ¬ (0xD800 ≤ value ∧ value < 0xE000) := by omega
  cases pieces with
  | nil => simp only [charactersOfPieces?, noHalf, if_false]
  | cons piece pieces =>
      cases piece with
      | plain character | short character => simp only [charactersOfPieces?, noHalf, if_false]
      | unit other => simp only [charactersOfPieces?, noHigh, noLow, if_false]

theorem stringOfPieces?_piecesOf (text : String) :
    stringOfPieces? (piecesOf text) = some text := by
  have characters (text : List Char) :
      charactersOfPieces? (text.map Piece.ofCharacter) = some text := by
    induction text with
    | nil => rfl
    | cons character text hypothesis =>
        rw [List.map_cons]
        rcases Piece.ofCharacter_cases character with ⟨plain, -⟩ | ⟨short, -⟩ | ⟨unit, control⟩
        · rw [plain, charactersOfPieces?, hypothesis, Option.map_some]
        · rw [short, charactersOfPieces?, hypothesis, Option.map_some]
        · rw [unit, charactersOfPieces?_unit (by omega), hypothesis, Option.map_some,
            Char.ofNat_toNat]
  rw [stringOfPieces?, piecesOf, characters, Option.map_some, String.ofList_toList]

namespace Token

/-- A token that a value is written with. -/
def IsCanonical : Token → Prop
  | .numeral number => ∃ value, number = .ofInteger value
  | .quoted pieces => ∃ text, pieces = piecesOf text
  | .openArray | .closeArray | .openObject | .closeObject | .colon | .comma | .null
  | .boolean _ => True

/-- A token that does not end by itself. -/
def isRun : Token → Bool
  | .null | .boolean _ | .numeral _ => true
  | .openArray | .closeArray | .openObject | .closeObject | .colon | .comma | .quoted _ => false

/-- Of two tokens side by side, one at least is a mark or a quoted string. -/
def Apart (first second : Token) : Prop :=
  first.isRun = false ∨ second.isRun = false

variable {token : Token}

theorem interrupts_spelling (mark : token.isRun = false) (rest : List Char) :
    Interrupts (token.spelling ++ rest) := by
  intro character first
  cases token with
  | openArray | closeArray | openObject | closeObject | colon | comma | quoted pieces =>
      cases first
      decide
  | null | boolean value | numeral value => cases mark

/-- A token that is written is found before the rest of the text, which must not go on with it. -/
theorem tokensFrom?_spelling (canonical : token.IsCanonical)
    (apart : token.isRun = true → Interrupts rest) :
    tokensFrom? .between found (token.spelling ++ rest) =
      tokensFrom? .between (token :: found) rest := by
  cases token with
  | openArray | closeArray | openObject | closeObject | colon | comma => rfl
  | null =>
      have isToken : Position.wordToken? ['l', 'l', 'u', 'n'].reverse = some .null := rfl
      exact tokensFrom?_word isToken (apart rfl)
  | boolean value =>
      have isTrue : Position.wordToken? ['e', 'u', 'r', 't'].reverse = some (.boolean true) := rfl
      have isFalse : Position.wordToken? ['e', 's', 'l', 'a', 'f'].reverse =
        some (.boolean false) := rfl
      cases value with
      | true => exact tokensFrom?_word isTrue (apart rfl)
      | false => exact tokensFrom?_word isFalse (apart rfl)
  | numeral number =>
      obtain ⟨value, rfl⟩ := canonical
      exact tokensFrom?_ofInteger value (apart rfl)
  | quoted pieces =>
      obtain ⟨text, rfl⟩ := canonical
      have begins (inner : List Char) : tokensFrom? .between found ('"' :: inner) =
          tokensFrom? (.quoted []) found inner := rfl
      have ends (pieces : List Piece) : tokensFrom? (.quoted pieces) found ('"' :: rest) =
          tokensFrom? .between (.quoted pieces.reverse :: found) rest := rfl
      rw [spelling, List.cons_append, List.cons_append, begins, List.append_assoc, piecesOf,
        tokensFrom?_piecesOf, List.singleton_append, ends, List.append_nil, List.reverse_reverse]

theorem lineFeed_not_mem_spelling (canonical : token.IsCanonical) : '\n' ∉ token.spelling := by
  cases token with
  | openArray | closeArray | openObject | closeObject | colon | comma | null => decide
  | boolean value => cases value <;> decide
  | numeral number =>
      obtain ⟨value, rfl⟩ := canonical
      obtain ⟨first, run, written, begins, allDigits⟩ := Numeral.characters_ofInteger value
      rw [spelling, written, List.mem_cons, not_or]
      refine ⟨?_, fun member => nomatch allDigits '\n' member⟩
      rintro rfl
      rcases begins with digit | minus
      · cases digit
      · cases minus
  | quoted pieces =>
      obtain ⟨text, rfl⟩ := canonical
      have pieces : ∀ piece ∈ piecesOf text, '\n' ∉ piece.spelling :=
        List.forall_mem_map.2 fun character _ => Piece.lineFeed_not_mem_spelling character
      simpa [spelling] using pieces

end Token

/-- A row of tokens that keep apart is read back. -/
theorem tokens?_spellings {tokens : List Token}
    (canonical : ∀ token ∈ tokens, token.IsCanonical) (apart : tokens.IsChain Token.Apart) :
    tokens? (tokens.flatMap Token.spelling) = some tokens := by
  -- Each token joins those that were found before, so these are general.
  have run (found : List Token) :
      tokensFrom? .between found (tokens.flatMap Token.spelling) =
        some (found.reverse ++ tokens) := by
    induction tokens generalizing found with
    | nil => simp [tokensFrom?, Position.leave]
    | cons token tokens hypothesis =>
        obtain ⟨first, others⟩ := List.forall_mem_cons.1 canonical
        have interrupts : token.isRun = true → Interrupts (tokens.flatMap Token.spelling) := by
          intro isRun
          cases tokens with
          | nil => exact nofun
          | cons next tokens =>
              have mark := (List.isChain_cons_cons.1 apart).1.resolve_left (by simp [isRun])
              exact Token.interrupts_spelling mark _
        rw [List.flatMap_cons, Token.tokensFrom?_spelling first interrupts,
          hypothesis others apart.of_cons, List.reverse_cons, List.append_assoc,
          List.singleton_append]
  exact run []

end Json

end StatelessPgp
