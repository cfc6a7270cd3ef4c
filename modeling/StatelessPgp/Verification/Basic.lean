import StatelessPgp.Keyword
import StatelessPgp.Text.Split
import StatelessPgp.Time.Bound
import StatelessPgp.Verification.Extension

/-!
# Verifications

A verification reports one good signature in one line: the time of the
signature, the fingerprints of the signing key and of its certificate, and then
a mode and free text, each of which may be missing.
-/

namespace StatelessPgp

/-- A report of one good signature. -/
structure Verification where
  time : Timestamp
  /-- The fingerprint of the signing key. -/
  key : String
  cert : String
  mode : Option SignatureMode
  description : Option String
  deriving DecidableEq, Repr

namespace Verification

open Text

/-- A report without mode and free text. -/
def new (time : Timestamp) (key cert : String) : Verification :=
  ⟨time, key, cert, none, none⟩

def withMode (mode : SignatureMode) (verification : Verification) : Verification :=
  { verification with mode := some mode }

/-- The same report with free text, which is trimmed and dropped if it is
blank. -/
def withDescription (description : String) (verification : Verification) :
    Verification :=
  { verification with description := stripped? description }

/-- The same report with an extension for its free text. -/
def withExtension (extension : Extension) (verification : Verification) :
    Verification :=
  verification.withDescription extension.render

/-- What stands before a mode. -/
def modeMark : List Char := "mode:".toList

def written (verification : Verification) : List Char :=
  verification.time.written ++ ' ' :: verification.key.toList ++
    ' ' :: verification.cert.toList ++
    (match verification.mode with
      | some mode => ' ' :: modeMark ++ (Keyword.word mode).toList
      | none => []) ++
    (match verification.description with
      | some text => ' ' :: text.toList
      | none => [])

def render (verification : Verification) : String :=
  String.ofList verification.written

/-- Whether the free text looks like an object. -/
def containsObject (verification : Verification) : Bool :=
  match verification.description with
  | none => false
  | some text =>
      let inner := trim text.toList
      inner.head? == some '\x7b' && inner.getLast? == some '\x7d'

/-- The extension that the free text is, if it is one. -/
def extension? (verification : Verification) : Option Extension :=
  if verification.containsObject then
    verification.description.bind Extension.ofText?
  else none

/-- A line lacks one of its three required words. -/
def malformed (line : List Char) : Failure :=
  .new .badData
    ("Verification must be of the format 'UTC-DATE OpenPGPFingerprint " ++
      "OpenPGPFingerprint [mode] [info]', got '" ++ String.ofList line ++ "'")

/-- The mode that a word announces, if it announces one. -/
def announcedMode? (word : List Char) : Option String :=
  if modeMark.isPrefixOf word then
    some (String.ofList (word.drop modeMark.length))
  else none

def ofLine (line : List Char) : Except Failure Verification := do
  let line := trim line
  let (date, rest) := nextWord line
  let (key, rest) := nextWord rest
  let (cert, rest) := nextWord rest
  if date.isEmpty || key.isEmpty || cert.isEmpty then throw (malformed line)
  let time ← Timestamp.parse (String.ofList date)
  let verification := new time (String.ofList key) (String.ofList cert)
  let (word, tail) := nextWord rest
  match announcedMode? word with
  | some mode =>
      let mode ← Keyword.parse mode
      return (verification.withMode mode).withDescription (String.ofList tail)
  | none => return verification.withDescription (String.ofList rest)

def parse (line : String) : Except Failure Verification :=
  ofLine line.toList

/-- Read a report of any number of signatures: one in each line that is not
blank. -/
def parseAll (text : String) : Except Failure (List Verification) :=
  (filledLines text.toList).mapM ofLine

/-- The lines of a report, each with a line feed. -/
def renderAll (verifications : List Verification) : String :=
  String.join (verifications.map fun verification => verification.render ++ "\n")

end Verification
end StatelessPgp
