import StatelessPgp.Failure.Basic
import StatelessPgp.Text.Hex
import StatelessPgp.Text.Split

/-!
# Session keys

A symmetric key with the number of its algorithm.  The text form is
`ALGORITHM:HEX` in upper case; reading accepts either case, surrounding blank
characters and line feeds anywhere.
-/

namespace StatelessPgp

/-- A symmetric key. -/
structure SessionKey where
  algorithm : UInt8
  key : Bytes
  deriving DecidableEq, Repr

namespace SessionKey

open Text

/-- The text form of a key. -/
def written (sessionKey : SessionKey) : List Char :=
  digits sessionKey.algorithm.toNat ++ ':' :: hex sessionKey.key

def render (sessionKey : SessionKey) : String :=
  String.ofList sessionKey.written

/-- A description of a key that shows its length only. -/
def redacted (sessionKey : SessionKey) : String :=
  s!"SessionKey \x7b algorithm: {sessionKey.algorithm.toNat}, " ++
    s!"key: [{sessionKey.key.length} bytes redacted] \x7d"

/-- Read the number of an algorithm: one to three digits, at most 255. -/
def algorithm? (run : List Char) : Option UInt8 :=
  if run.isEmpty || 3 < run.length || !run.all isDigit then none
  else if 255 < numberOfDigits run then none
  else some (UInt8.ofNat (numberOfDigits run))

/-- Read the bytes of a key, at least one. -/
def key? (run : List Char) : Option Bytes :=
  if run.isEmpty then none else unhex? run

/-- The text that is read: trimmed and without line feeds. -/
def cleaned (text : List Char) : List Char :=
  (trim text).filter (· != '\n')

/-- Read the text form of a key. -/
def ofText? (text : List Char) : Option SessionKey := do
  let (algorithm, key) ← cutFirst [':'] (cleaned text)
  return ⟨← algorithm? algorithm, ← key? key⟩

/-- Read the text form of a key, or say that it is none. -/
def parse (text : String) : Except Failure SessionKey :=
  match ofText? text.toList with
  | some sessionKey => .ok sessionKey
  | none =>
      .error (.new .badData
        "Provided session key does not match expected format ALGO:HEX")

end SessionKey
end StatelessPgp
