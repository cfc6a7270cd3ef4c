import StatelessPgp.Failure.Basic
import StatelessPgp.Text.Split
import StatelessPgp.Text.Utf8

/-!
# Profiles

A profile is a named choice of algorithms.  Profiles are listed one a line, as
`NAME: DESCRIPTION (aliases: ALIAS, ALIAS)`, where the description and the
aliases may be missing and the line has at most 1000 bytes.
-/

namespace StatelessPgp

/-- A named choice of algorithms. -/
structure Profile where
  /-- The name, one word without a colon. -/
  name : String
  description : Option String
  aliases : List String
  deriving DecidableEq, Repr

namespace Profile

open Text

/-- What stands before the aliases of a line. -/
def aliasMark : List Char := "(aliases: ".toList

def written (profile : Profile) : List Char :=
  let description := match profile.description with
    | some text => ' ' :: text.toList
    | none => []
  let aliases :=
    if profile.aliases.isEmpty then []
    else ' ' :: aliasMark ++
      [',', ' '].intercalate (profile.aliases.map String.toList) ++ [')']
  let colon :=
    if profile.description.isSome || !profile.aliases.isEmpty then [':'] else []
  profile.name.toList ++ colon ++ description ++ aliases

def render (profile : Profile) : String :=
  String.ofList profile.written

/-- The greatest number of bytes in the line of a profile. -/
def maxLineBytes : Nat := 1000

/-- A name is refused for this reason. -/
def invalidName (name reason : String) : Failure :=
  .new .badData ("Invalid profile name '" ++ name ++ "': " ++ reason)

/-- The profile with these parts, if the name is a word and the line is not too
long. -/
def new (name : String) (description : Option String) (aliases : List String) :
    Except Failure Profile :=
  if (trim name.toList).isEmpty then
    .error (invalidName name "name cannot be empty")
  else if name.toList.contains ':' then
    .error (invalidName name "name cannot contain ':'")
  else if name.toList.any isBlank then
    .error (invalidName name "name cannot contain whitespace")
  else
    let profile : Profile := ⟨name, description.bind stripped?, aliases⟩
    if maxLineBytes < profile.render.utf8ByteSize then
      .error (.new .badData
        s!"The line representation of a profile must not exceed {maxLineBytes} bytes")
    else .ok profile

/-- The aliases in what follows their mark. -/
def readAliases (list : List Char) : List String :=
  (((splitItems (dropSuffix [')'] list)).map trim).filter (!·.isEmpty)).map String.ofList

def ofLine (line : List Char) : Except Failure Profile :=
  let line := trim line
  match cutFirst [':', ' '] line with
  | none => new (String.ofList (dropSuffix [':'] line)) none []
  | some (name, rest) =>
      let rest := trim rest
      match cutFirst aliasMark rest with
      | none => new (String.ofList name) (some (String.ofList rest)) []
      | some (description, list) =>
          new (String.ofList name) (some (String.ofList description))
            (readAliases list)

def parse (line : String) : Except Failure Profile :=
  ofLine line.toList

/-- Read a listing: a profile in each line that is not blank. -/
def parseAll (text : String) : Except Failure (List Profile) :=
  (filledLines text.toList).mapM ofLine

end Profile
end StatelessPgp
