import StatelessPgp.Failure.Basic

/-!
# Mode words

Several options take one word out of a short list.  Each list is a type whose
values are written as their words; a word is read back by looking it up.
-/

namespace StatelessPgp

/-- A type of which each value is written as a word. -/
class Keyword (α : Type) where
  /-- The name of the list, as messages mention it. -/
  label : String
  /-- All values in the order in which they are listed. -/
  values : List α
  word : α → String
  name : α → String

namespace Keyword

def words (α : Type) [Keyword α] : List String :=
  (values : List α).map word

/-- The value that a word stands for. -/
def ofWord? {α : Type} [Keyword α] (text : String) : Option α :=
  (values : List α).find? fun value => word value == text

/-- Read a word, or say which words there are. -/
def parse {α : Type} [Keyword α] (text : String) : Except Failure α :=
  match ofWord? text with
  | some value => .ok value
  | none =>
      .error (.new .unsupportedOption
        ("Unsupported value '" ++ text ++ "' for " ++ label α ++
          ", expected one of: " ++ String.intercalate ", " (words α)))

end Keyword

/-- What a detached signature covers. -/
inductive SignAs where
  | binary
  | text
  deriving DecidableEq, Repr

instance : Keyword SignAs where
  label := "SignAs"
  values := [.binary, .text]
  word
    | .binary => "binary"
    | .text => "text"
  name
    | .binary => "Binary"
    | .text => "Text"

/-- What an inline signature covers, and whether the text stays readable. -/
inductive InlineSignAs where
  | binary
  | text
  | clearsigned
  deriving DecidableEq, Repr

instance : Keyword InlineSignAs where
  label := "InlineSignAs"
  values := [.binary, .text, .clearsigned]
  word
    | .binary => "binary"
    | .text => "text"
    | .clearsigned => "clearsigned"
  name
    | .binary => "Binary"
    | .text => "Text"
    | .clearsigned => "Clearsigned"

/-- The format of the data in an encrypted message. -/
inductive EncryptAs where
  | binary
  | text
  deriving DecidableEq, Repr

instance : Keyword EncryptAs where
  label := "EncryptAs"
  values := [.binary, .text]
  word
    | .binary => "binary"
    | .text => "text"
  name
    | .binary => "Binary"
    | .text => "Text"

/-- What a message is encrypted for. -/
inductive EncryptFor where
  | storage
  | communications
  | any
  deriving DecidableEq, Repr

instance : Keyword EncryptFor where
  label := "EncryptFor"
  values := [.storage, .communications, .any]
  word
    | .storage => "storage"
    | .communications => "communications"
    | .any => "any"
  name
    | .storage => "Storage"
    | .communications => "Communications"
    | .any => "Any"

/-- What a verified signature covered. -/
inductive SignatureMode where
  | binary
  | text
  deriving DecidableEq, Repr

instance : Keyword SignatureMode where
  label := "SignatureMode"
  values := [.binary, .text]
  word
    | .binary => "binary"
    | .text => "text"
  name
    | .binary => "Binary"
    | .text => "Text"

/-- The header of armored data. -/
inductive ArmorLabel where
  | auto
  | sig
  | key
  | cert
  | message
  deriving DecidableEq, Repr

instance : Keyword ArmorLabel where
  label := "ArmorLabel"
  values := [.auto, .sig, .key, .cert, .message]
  word
    | .auto => "auto"
    | .sig => "sig"
    | .key => "key"
    | .cert => "cert"
    | .message => "message"
  name
    | .auto => "Auto"
    | .sig => "Sig"
    | .key => "Key"
    | .cert => "Cert"
    | .message => "Message"

end StatelessPgp
